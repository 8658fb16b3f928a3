import NodeStack.Proofs.Link.Scripted

/-!
# `NodeStack.Proofs.Link.Closing`: to close a connection, and to redirect it

With one caller at a time.

* `close_final`: a close returns once the loop in charge makes use of a chance to stop, with a fault
  exactly if that loop has crashed, and it is final (`Closed`): no client is in use, nothing happens
  any more until a call opens the connection, another close changes nothing, and to open it begins
  one loop.
* `update_retargets`: a call that redirects leaves the new target in any case. If it ends well, one
  loop is at work and all that is dialled from then on is the new target. If it ends with a fault no
  loop is at work, and the old target is lost all the same (`target_lost_crash`).
-/

set_option autoImplicit false

namespace NodeStack.Link.Shared

/-! ### To close -/

/-- What holds of a connection that has been closed. -/
structure Closed (s : Shared) : Prop where
  client : s.link.client = none
  /-- Nothing happens until a call opens the connection, whatever the loops try to do. -/
  still : ∀ later : List Act, (∀ act ∈ later, act.isOpening = false) → s.run later = s
  /-- Another close returns at once and changes nothing. -/
  again : ∀ moves result s', Returns s .close moves result s' ↔
    moves = [] ∧ result = .ok () ∧ s' = s
  /-- To open the connection begins one loop, which no loop has been before. -/
  reopened : (s.step .open).link = s.link.begun ∧ s.link.loops.get? s.link.count = none ∧
    ∀ n, (s.step .open).link.Busy n ↔ n = s.link.count

theorem closed_of_quiet {s : Shared} (h : s.Quiet) : s.Closed where
  client := h.client
  still _ := run_of_quiet h
  again moves result s' := by
    have hstep : s.step .close = s := step_of_quiet h rfl
    constructor
    · intro hr
      cases hr with
      | atOnce => exact ⟨rfl, rfl, hstep⟩
      | later hwaits =>
        rw [hstep, h.waiting] at hwaits
        cases hwaits
    · rintro ⟨rfl, rfl, rfl⟩
      have hidle : (s'.step .close).waiting = [] := by
        rw [hstep]
        exact h.waiting
      have hreturns := Returns.atOnce hidle
      rw [hstep] at hreturns
      exact hreturns
  reopened := open_of_quiet h

/-- A close returns once the loop in charge makes use of a chance to stop, whatever the loops do
before, and over a scripted dialler it returns outright. It is a fault exactly if the loop in charge
has crashed, and in any case the connection is closed. -/
theorem close_final (name target : String) (delay : Nat) (acts : List Act)
    (hone : OneCaller acts ⟨Link.create name target delay, []⟩)
    (hidle : (run acts ⟨Link.create name target delay, []⟩).waiting = []) :
    let s := run acts ⟨Link.create name target delay, []⟩
    ((∃ s', Returns s .close [] (.ok ()) s') ∨
      ∃ n, s.link.worker = some n ∧
        ∀ moves, ∃ result s', Returns s .close (moves ++ [(n, .stop)]) result s') ∧
    (∀ d : Scenario.Dialling, d.link = s.link →
      ∃ moves, Returns s .close moves d.close.1 ⟨d.close.2.link, []⟩) ∧
    ∀ moves result s', Returns s .close moves result s' →
      (Failed s s' → result = .error (crashFault s.link)) ∧
      (¬Failed s s' → result = .ok ()) ∧
      s'.Closed := by
  intro s
  have htidy : s.Tidy := (sole_run (sole_create name target delay) hone).tidy
  refine ⟨exists_returns htidy hidle rfl, fun d hd => ?_, fun moves result s' hr => ?_⟩
  · have hs : (⟨d.link, []⟩ : Shared) = s := by
      rw [hd, ← show s.waiting = [] from hidle]
    rw [← hs] at htidy ⊢
    exact Scenario.Dialling.close_returns htidy
  · obtain ⟨q, hq, -, ⟨hok, hwell, rfl⟩ | ⟨herror, hfailed, rfl⟩⟩ :=
      returns_cases htidy hidle (rfl : s.step .close = s.begin false) rfl rfl hr
    · exact ⟨fun hf => absurd hf hwell, fun _ => hok, closed_of_quiet hq⟩
    · exact ⟨fun _ => herror, fun hf => absurd hfailed hf, closed_of_quiet hq⟩

/-- The loop is quicker with a success than with its end, so a client is published after the call
has begun to close. It is taken back before the call returns, also if the loop crashes over its live
link, and then the call ends with a fault. -/
theorem close_final_race :
    let s := run [.open, .loop 0 .dial] ⟨Link.create "lnd" "lnd:1" 3000, []⟩
    ((s.step .close).stir [(0, .dialled 7)]).link.client = some 7 ∧
      (∃ s', Returns s .close [(0, .dialled 7), (0, .stop)] (.ok ()) s' ∧ s'.Closed ∧
        s'.link.generation = 1) ∧
      ∃ s', Returns s .close [(0, .dialled 7), (0, .crashed)]
        (.error (.worker "lnd connection loop panicked")) s' ∧ s'.Closed := by
  intro s
  have hone : OneCaller [.open, .loop 0 .dial] ⟨Link.create "lnd" "lnd:1" 3000, []⟩ :=
    ⟨fun _ => rfl, ⟨fun _ => rfl, trivial⟩⟩
  obtain ⟨-, -, hfinal⟩ := close_final "lnd" "lnd:1" 3000 _ hone rfl
  have hwaits : (s.step .close).waiting = [⟨0, false⟩] := rfl
  have hstops : Returns s .close [(0, .dialled 7), (0, .stop)] (.ok ()) _ := .later hwaits rfl
  have hcrashes : Returns s .close [(0, .dialled 7), (0, .crashed)]
      (.error (.worker "lnd connection loop panicked")) _ := .later hwaits rfl
  exact ⟨rfl, ⟨_, hstops, (hfinal _ _ _ hstops).2.2, rfl⟩,
    ⟨_, hcrashes, (hfinal _ _ _ hcrashes).2.2⟩⟩

/-! ### To redirect -/

/-- Nothing but `goal` is dialled: it is the target of the connection, and of every loop at work. -/
structure Aims (goal : String) (k : Link) : Prop where
  aimed : k.target = goal
  loops : ∀ n l, k.loops.get? n = some l → l.finished = false → l.target = goal

section
variable {s : Shared} {k : Link} {goal : String}

theorem aims_open (h : Aims goal k) : Aims goal k.open_ := by
  rcases open_cases k with ⟨-, he⟩ | ⟨-, he⟩ <;> rw [he]
  · exact h
  · refine ⟨h.aimed, fun n l hl hf => ?_⟩
    by_cases hn : n = k.count
    · rw [hn] at hl
      obtain rfl := Option.some.inj ((Table.get?_set_self _ _ _).symm.trans hl)
      exact h.aimed
    · exact h.loops n l ((Table.get?_set_other _ _ hn).symm.trans hl) hf

theorem aims_conclude (h : Aims goal k) (awaited : Option Nat) (reopens : Bool) :
    Aims goal (conclude awaited reopens k) := by
  have hcleared : Aims goal { k with client := none } := ⟨h.aimed, h.loops⟩
  rcases conclude_cases awaited reopens k with he | he <;> rw [he]
  · exact hcleared
  · exact aims_open hcleared

/-- A change to one loop that leaves its target alone, and sets it to no work. -/
theorem aims_set {k' : Link} {n : Nat} {l l' : Loop} (h : Aims goal k)
    (htarget : k'.target = k.target) (hk : k'.loops = k.loops.set n l')
    (hl : k.loops.get? n = some l) (hsame : l'.target = l.target)
    (hf : l'.finished = false → l.finished = false) : Aims goal k' := by
  refine ⟨htarget.trans h.aimed, fun m u hu hfin => ?_⟩
  rw [hk] at hu
  by_cases hmn : m = n
  · rw [hmn, Table.get?_set_self] at hu
    cases hu
    exact hsame.trans (h.loops n l hl (hf hfin))
  · rw [Table.get?_set_other _ _ hmn] at hu
    exact h.loops m u hu hfin

theorem aims_step (h : Aims goal s.link) {act : Act} (hact : act.isUpdate = false) :
    Aims goal (s.step act).link := by
  cases act with
  | «open» => exact aims_open h
  | close =>
    show Aims goal (s.begin false).link
    unfold Shared.begin beginClose
    cases hw : s.link.worker with
    | none => exact aims_conclude h none false
    | some n =>
      dsimp only
      cases hl : s.link.loops.get? n with
      | none =>
        exact aims_conclude (k := { s.link with worker := none }) ⟨h.aimed, h.loops⟩ none false
      | some l => exact aims_set h rfl rfl hl rfl id
  | update target => cases hact
  | resume k =>
    rcases resume_cases s k with he | ⟨call, -, -, he⟩ <;> rw [he]
    · exact h
    · exact aims_conclude h _ _
  | loop n move =>
    rcases loop_cases s n move with he | ⟨l, hl, hf, he⟩ <;> rw [he]
    · exact h
    · obtain ⟨hfin, ph, client, generation, hmake, -⟩ := make_eq hl hf
      dsimp only
      rw [hmake]
      exact aims_set h rfl rfl hl rfl fun _ => hfin

theorem aims_run {acts : List Act} (h : Aims goal s.link)
    (hacts : ∀ act ∈ acts, act.isUpdate = false) : Aims goal (s.run acts).link := by
  induction acts generalizing s with
  | nil => exact h
  | cons act rest ih =>
    exact ih (aims_step h (hacts act List.mem_cons_self))
      fun a ha => hacts a (List.mem_cons_of_mem _ ha)

/-- A call that redirects a quiet connection leaves one loop at work, for the new target. -/
theorem aims_reopened {q : Shared} (h : q.Quiet) : Aims q.link.target (q.step .open).link := by
  refine aims_open ⟨rfl, fun n l hl hf => ?_⟩
  exact absurd (busy_iff.mpr ⟨l, hl, hf⟩) (h.not_busy n)

/-- A crash is no news of the loop that a quiet connection is opened with. -/
theorem Failed.of_open {s q : Shared} (h : q.Quiet) (hf : Failed s (q.step .open)) :
    Failed s q := by
  obtain ⟨n, hn, hph⟩ := hf
  obtain ⟨hopen, -, -⟩ := open_of_quiet h
  rw [hopen] at hph
  refine ⟨n, hn, ?_⟩
  by_cases hnk : n = q.link.count
  · have hready : q.link.begun.phase n = some .ready := by
      rw [hnk]
      exact congrArg (Option.map _) (Table.get?_set_self _ _ _)
    rw [hready] at hph
    cases hph
  · rw [← hph]
    exact (congrArg (Option.map _) (Table.get?_set_other _ _ hnk)).symm

end

/-- A call that redirects a connection returns as a close does. It leaves the new target, whether or
not it ends well, and all that is dialled from then on is that target. It ends with a fault exactly
if the loop that was in charge has crashed. If it ends well one loop is at work; if not, none is and
no client is in use. So it is all or nothing exactly if it ends well or the target is the old one. -/
theorem update_retargets (name target : String) (delay : Nat) (acts : List Act)
    (hone : OneCaller acts ⟨Link.create name target delay, []⟩)
    (hidle : (run acts ⟨Link.create name target delay, []⟩).waiting = []) (goal : String) :
    let s := run acts ⟨Link.create name target delay, []⟩
    ((∃ s', Returns s (.update goal) [] (.ok ()) s') ∨
      ∃ n, s.link.worker = some n ∧
        ∀ moves, ∃ result s', Returns s (.update goal) (moves ++ [(n, .stop)]) result s') ∧
    (∀ d : Scenario.Dialling, d.link = s.link →
      ∃ moves, Returns s (.update goal) moves (d.update goal).1 ⟨(d.update goal).2.link, []⟩) ∧
    ∀ moves result s', Returns s (.update goal) moves result s' →
      s'.link.target = goal ∧
      (∀ later : List Act, (∀ act ∈ later, act.isUpdate = false) → ∀ n l,
        (s'.run later).link.loops.get? n = some l → Move.fits l .dial = true → l.target = goal) ∧
      (¬Failed s s' → result = .ok () ∧
        ∃ n, s'.link.worker = some n ∧ ∀ m, s'.link.Busy m ↔ m = n) ∧
      (Failed s s' → result = .error (crashFault s.link) ∧ s'.link.client = none ∧
        ∀ n, ¬s'.link.Busy n) ∧
      ((result ≠ .ok () → s'.link.target = s.link.target) ↔
        ¬Failed s s' ∨ goal = s.link.target) := by
  intro s
  have htidy : s.Tidy := (sole_run (sole_create name target delay) hone).tidy
  have hupdate : s.step (.update goal) =
      Shared.begin true { s with link := s.link.retarget goal } :=
    rfl
  have hretargeted : Tidy { s with link := s.link.retarget goal } := tidy_retarget htidy goal
  have hexists := exists_returns hretargeted hidle hupdate
  refine ⟨hexists, fun d hd => ?_, fun moves result s' hr => ?_⟩
  · have hs : (⟨d.link, []⟩ : Shared) = s := by
      rw [hd, ← show s.waiting = [] from hidle]
    rw [← hs] at htidy ⊢
    exact Scenario.Dialling.update_returns htidy goal
  obtain ⟨q, hq, hgoal, hcases⟩ :=
    returns_cases hretargeted hidle hupdate rfl rfl hr
  have hgoal : q.link.target = goal := hgoal
  -- Only loops at work dial.
  have hdials : ∀ {k : Link}, Aims goal k → ∀ n l, k.loops.get? n = some l →
      Move.fits l .dial = true → l.target = goal := fun h n l hl hf =>
    h.loops n l hl (make_eq hl hf).1
  rcases hcases with ⟨rfl, hwell, he⟩ | ⟨rfl, hfailed, rfl⟩
  · have he : s' = q.step .open := he
    subst he
    obtain ⟨hopen, -, hbusy⟩ := open_of_quiet hq
    have haims : Aims goal (q.step .open).link := hgoal ▸ aims_reopened hq
    have hwell : ¬Failed s (q.step .open) := fun hf => hwell (hf.of_open hq)
    -- The call has ended well, so the connection has been opened for the new target.
    refine ⟨haims.aimed, fun later hlater => hdials (aims_run haims hlater),
      fun _ => ⟨rfl, q.link.count, by rw [hopen]; rfl, hbusy⟩, fun hf => absurd hf hwell, ?_⟩
    exact ⟨fun _ => Or.inl hwell, fun _ hne => absurd rfl hne⟩
  · -- It has ended with a fault: no loop is at work, and the new target is stored.
    have haims : Aims goal s'.link := ⟨hgoal, fun n l hl hf =>
      absurd (busy_iff.mpr ⟨l, hl, hf⟩) (hq.not_busy n)⟩
    refine ⟨hgoal, fun later hlater => hdials (aims_run haims hlater),
      fun hwell => absurd hfailed hwell, fun _ => ⟨rfl, hq.client, hq.not_busy⟩, ?_⟩
    constructor
    · intro hkept
      exact Or.inr (hgoal.symm.trans (hkept (fun he => nomatch he)))
    · rintro (hwell | hsame) -
      · exact absurd hfailed hwell
      · exact hgoal.trans hsame

/-- A connection with a live link is redirected, and nothing but the new target is dialled then. -/
theorem update_retargets_live :
    let s := run [.open, .loop 0 .dial, .loop 0 (.dialled 7)]
      ⟨Link.create "lnd" "lnd:1" 3000, []⟩
    ∃ s', Returns s (.update "lnd:2") [(0, .stop)] (.ok ()) s' ∧ s'.link.target = "lnd:2" ∧
      (∃ n, s'.link.worker = some n ∧ ∀ m, s'.link.Busy m ↔ m = n) ∧
      ∀ n l, (s'.run [.loop 1 .dial, .loop 1 (.refused 5), .loop 1 .rested]).link.loops.get? n =
        some l → Move.fits l .dial = true → l.target = "lnd:2" := by
  intro s
  have hone : OneCaller [.open, .loop 0 .dial, .loop 0 (.dialled 7)]
      ⟨Link.create "lnd" "lnd:1" 3000, []⟩ :=
    ⟨fun _ => rfl, ⟨fun _ => rfl, ⟨fun _ => rfl, trivial⟩⟩⟩
  let s' := ((s.step (.update "lnd:2")).stir [(0, .stop)]).step (.resume 0)
  have hreturns : Returns s (.update "lnd:2") [(0, .stop)] (.ok ()) s' :=
    .later (rfl : (s.step (.update "lnd:2")).waiting = [⟨0, true⟩]) rfl
  obtain ⟨-, -, hcases⟩ := update_retargets "lnd" "lnd:1" 3000 _ hone rfl "lnd:2"
  obtain ⟨htarget, hdials, hwell, -, -⟩ := hcases _ _ _ hreturns
  have hfine : ¬Failed s s' := by
    rintro ⟨n, hn, hph⟩
    obtain rfl : 0 = n := Option.some.inj hn
    cases hph
  exact ⟨_, hreturns, htarget, (hwell hfine).2, hdials _ (by decide)⟩

/-- The loop has crashed, so the call that redirects the connection ends with a fault, but not with
the target that it found. -/
theorem target_lost_crash :
    let s := run [.open, .loop 0 .dial, .loop 0 .crashed] ⟨Link.create "lnd" "lnd:1" 3000, []⟩
    s.link.target = "lnd:1" ∧
      ∃ s', Returns s (.update "lnd:2") [] (.error (.worker "lnd connection loop panicked")) s' ∧
        s'.link.target = "lnd:2" := by
  intro s
  exact ⟨rfl, _, .later (rfl : (s.step (.update "lnd:2")).waiting = [⟨0, true⟩]) rfl, rfl⟩

end NodeStack.Link.Shared
