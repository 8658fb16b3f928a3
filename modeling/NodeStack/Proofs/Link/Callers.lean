import NodeStack.Proofs.Link.Interleaving

/-!
# `NodeStack.Proofs.Link.Callers`: a connection with one caller at a time

A caller makes its next call once the last one has returned. The loops go on by themselves, also
while a call waits: a loop that has been told to stop may still be quicker with a success, a failure
or a crash.

* `OneCaller`: the calls of such a history. `sole_run`: at most one loop is at work then, and it is
  in charge or the call that waits is waiting for it.
* `Returns`: how a call that closes returns, and what the loops did meanwhile. `exists_returns`: it
  does once the loop in charge makes use of a chance to stop. `returns_cases`: what it leaves.
* `Quiet`: what holds after a close. `run_of_quiet`: nothing but a new call that opens changes
  anything then. `open_of_quiet`: such a call begins one loop.
-/

set_option autoImplicit false

namespace NodeStack.Link

/-- Whether a call begins. -/
def Act.isCall : Act → Bool
  | .open | .close | .update _ => true
  | .resume _ | .loop _ _ => false

/-- Whether a call begins that opens the connection in the end. -/
def Act.isOpening : Act → Bool
  | .open | .update _ => true
  | _ => false

/-- Whether a call begins that redirects the connection. -/
def Act.isUpdate : Act → Bool
  | .update _ => true
  | _ => false

/-- The connection once its loop in charge has been told to stop. -/
def relieved (k : Link) (n : Nat) (l : Loop) : Link :=
  { k with
    worker := none
    loops := k.loops.set n { l with told := true } }

namespace Shared

/-- A call begins only once the call before it has returned. -/
def OneCaller : List Act → Shared → Prop
  | [], _ => True
  | act :: rest, s => (act.isCall = true → s.waiting = []) ∧ OneCaller rest (s.step act)

/-- The loops make some moves. -/
def stir (moves : List (Nat × Move)) (s : Shared) : Shared :=
  s.run (moves.map fun (n, move) => .loop n move)

/-- A call that closes returns: at once, or when the loop that it waits for is over, the loops
having made some moves meanwhile. -/
inductive Returns (s : Shared) (act : Act) :
    List (Nat × Move) → Except Upstream.LinkFault Unit → Shared → Prop where
  | atOnce (h : (s.step act).waiting = []) :
    Returns s act [] (s.link.endClose none).1 (s.step act)
  | later {call : Call} {moves : List (Nat × Move)} (h : (s.step act).waiting = [call])
    (hover : ((s.step act).stir moves).link.finished call.awaited = true) :
    Returns s act moves (((s.step act).stir moves).link.endClose (some call.awaited)).1
      (((s.step act).stir moves).step (.resume 0))

/-! ### What loops leave alone -/

section
variable {s : Shared}

theorem stir_append (moves more : List (Nat × Move)) (s : Shared) :
    s.stir (moves ++ more) = (s.stir moves).stir more := by
  unfold stir run
  rw [List.map_append, List.foldl_append]

/-- A move of a loop changes neither who is in charge, nor the calls, the target or the name, nor
how many loops there have been. -/
theorem same_loop (s : Shared) (n : Nat) (move : Move) :
    (s.step (.loop n move)).waiting = s.waiting ∧
      (s.step (.loop n move)).link.worker = s.link.worker ∧
      (s.step (.loop n move)).link.target = s.link.target ∧
      (s.step (.loop n move)).link.name = s.link.name ∧
      (s.step (.loop n move)).link.count = s.link.count := by
  rcases loop_cases s n move with he | ⟨l, hl, hf, he⟩ <;> rw [he]
  · exact ⟨rfl, rfl, rfl, rfl, rfl⟩
  · obtain ⟨-, ph, client, generation, hmake, -⟩ := make_eq hl hf
    dsimp only
    rw [hmake]
    exact ⟨rfl, rfl, rfl, rfl, rfl⟩

theorem same_stir (moves : List (Nat × Move)) (s : Shared) :
    (s.stir moves).waiting = s.waiting ∧ (s.stir moves).link.worker = s.link.worker ∧
      (s.stir moves).link.target = s.link.target ∧ (s.stir moves).link.name = s.link.name := by
  induction moves generalizing s with
  | nil => exact ⟨rfl, rfl, rfl, rfl⟩
  | cons m moves ih =>
    obtain ⟨n, move⟩ := m
    obtain ⟨hwaiting, hworker, htarget, hname, -⟩ := same_loop s n move
    obtain ⟨hwaiting', hworker', htarget', hname'⟩ := ih (s.step (.loop n move))
    exact ⟨hwaiting'.trans hwaiting, hworker'.trans hworker, htarget'.trans htarget,
      hname'.trans hname⟩

theorem tidy_stir (h : s.Tidy) (moves : List (Nat × Move)) : (s.stir moves).Tidy := by
  induction moves generalizing s with
  | nil => exact h
  | cons m moves ih => exact ih (tidy_step h (Or.inl (same_loop s m.1 m.2).2.2.2.2))

/-- A loop that has been told to stop can do so as long as it is not over, and is over then. -/
theorem finished_stop {n : Nat} {l : Loop} (hl : s.link.loops.get? n = some l)
    (htold : l.told = true) : (s.step (.loop n .stop)).link.finished n = true := by
  cases hfin : l.finished with
  | true =>
    have hstep : s.step (.loop n .stop) = s := by
      simp [step, hl, Move.fits, hfin]
    rw [hstep, finished, hl]
    exact hfin
  | false =>
    have hstep : s.step (.loop n .stop) = { s with link := { s.link with
        loops := s.link.loops.set n { l with phase := .ended }
        client := none } } := by
      simp [step, hl, Move.fits, htold, hfin, Move.make, Link.stop, setPhase]
    rw [hstep]
    simp [finished, Loop.finished]

/-! ### One caller at a time -/

/-- A history with one caller at a time: at most one call waits. -/
structure Sole (s : Shared) : Prop where
  tidy : s.Tidy
  single : s.waiting = [] ∨ ∃ call, s.waiting = [call]

/-- A call that closes, begun while none waits: it returns at once if no loop is in charge, and else
waits for that loop. -/
theorem begin_of_idle (h : s.Tidy) (hidle : s.waiting = []) (reopens : Bool) :
    (s.link.worker = none ∧ s.begin reopens = ⟨conclude none reopens s.link, []⟩) ∨
    ∃ n l, s.link.worker = some n ∧ s.link.loops.get? n = some l ∧
      s.begin reopens = ⟨s.link.relieved n l, [⟨n, reopens⟩]⟩ := by
  rcases begin_cases h reopens with ⟨hw, he⟩ | hlater
  · rw [hidle] at he
    exact Or.inl ⟨hw, he⟩
  · exact Or.inr hlater

theorem sole_begin {reopens : Bool} (h : s.Tidy) (hidle : s.waiting = []) :
    (s.begin reopens).Sole := by
  rcases begin_of_idle h hidle reopens with ⟨-, he⟩ | ⟨n, l, -, -, he⟩
  · have hwaiting : (s.begin reopens).waiting = [] := by rw [he]
    exact ⟨tidy_begin h (Or.inr hwaiting), Or.inl hwaiting⟩
  · have hcount : (s.begin reopens).link.count = s.link.count := by
      rw [he]
      rfl
    refine ⟨tidy_begin h (Or.inl hcount), Or.inr ⟨⟨n, reopens⟩, ?_⟩⟩
    rw [he]

theorem tidy_retarget (h : s.Tidy) (target : String) :
    Tidy { s with link := s.link.retarget target } :=
  ⟨h.bounded, h.single, h.owned, h.charge, h.stopped⟩

theorem sole_step (h : s.Sole) {act : Act} (hcall : act.isCall = true → s.waiting = []) :
    (s.step act).Sole := by
  cases act with
  | «open» =>
    have hidle : s.waiting = [] := hcall rfl
    exact ⟨tidy_step h.tidy (Or.inr hidle), Or.inl hidle⟩
  | close => exact sole_begin h.tidy (hcall rfl)
  | update target => exact sole_begin (tidy_retarget h.tidy target) (hcall rfl)
  | resume k =>
    rcases resume_cases s k with he | ⟨call, hcall, -, he⟩
    · rw [he]
      exact h
    · -- The only call that waits is the one that goes on.
      have hnone : (s.step (.resume k)).waiting = [] := by
        rw [he]
        rcases h.single with hnil | ⟨only, hone⟩
        · rw [hnil] at hcall
          cases hcall
        · rw [hone] at hcall ⊢
          cases k with
          | zero => rfl
          | succ k => cases hcall
      exact ⟨tidy_step h.tidy (Or.inr hnone), Or.inl hnone⟩
  | loop n move =>
    obtain ⟨hwaiting, -, -, -, hcount⟩ := same_loop s n move
    exact ⟨tidy_step h.tidy (Or.inl hcount), by rw [hwaiting]; exact h.single⟩

theorem sole_run {acts : List Act} (h : s.Sole) (hone : OneCaller acts s) : (s.run acts).Sole := by
  induction acts generalizing s with
  | nil => exact h
  | cons act rest ih => exact ih (sole_step h hone.1) hone.2

theorem sole_create (name target : String) (delay : Nat) :
    Sole ⟨Link.create name target delay, []⟩ :=
  ⟨tidy_create name target delay, Or.inl rfl⟩

/-! ### How a call returns -/

/-- Whether the loop that a call waits for has crashed. -/
def Failed (s s' : Shared) : Prop :=
  ∃ n, s.link.worker = some n ∧ s'.link.phase n = some .crashed

/-- The fault of a call whose loop has crashed. -/
def crashFault (k : Link) : Upstream.LinkFault := .worker s!"{k.name} connection loop panicked"

theorem endClose_none (k : Link) : (k.endClose none).1 = .ok () := rfl

theorem endClose_crashed {k : Link} {n : Nat} (h : k.phase n = some .crashed) :
    (k.endClose (some n)).1 = .error (crashFault k) := by
  simp [endClose, crashFault, h]

theorem endClose_ended {k : Link} {n : Nat} (h : k.phase n ≠ some .crashed) :
    (k.endClose (some n)).1 = .ok () := by
  simp [endClose, h]

/-- What a call that closes makes of a connection when it goes on: if its loop has crashed it ends
with no client in use, and else it may open. -/
theorem conclude_crashed {k : Link} {n : Nat} (h : k.phase n = some .crashed) (reopens : Bool) :
    conclude (some n) reopens k = { k with client := none } := by
  simp [conclude, endClose, h]

theorem conclude_ended {k : Link} {n : Nat} (h : k.phase n ≠ some .crashed) (reopens : Bool) :
    conclude (some n) reopens k =
      if reopens then open_ { k with client := none } else { k with client := none } := by
  simp [conclude, endClose, h]

/-- No call waits, no loop is in charge or at work, and no client is in use. -/
structure Quiet (s : Shared) : Prop where
  tidy : s.Tidy
  waiting : s.waiting = []
  worker : s.link.worker = none
  client : s.link.client = none

/-- A loop at work is in charge, or a call waits for it. -/
theorem not_busy_of_idle (h : s.Tidy) (hworker : s.link.worker = none) (hidle : s.waiting = [])
    (n : Nat) : ¬s.link.Busy n := by
  intro hn
  rcases h.owned n hn with hw | ⟨call, hcall, -⟩
  · rw [hworker] at hw
    cases hw
  · rw [hidle] at hcall
    cases hcall

theorem Quiet.not_busy (h : s.Quiet) (n : Nat) : ¬s.link.Busy n :=
  not_busy_of_idle h.tidy h.worker h.waiting n

/-- A connection whose loops are all over is quiet once its client is taken back. -/
theorem quiet_cleared {k : Link} (hbounded : ∀ n l, k.loops.get? n = some l → n < k.count)
    (hworker : k.worker = none) (hidle : ∀ n, ¬k.Busy n) :
    Quiet ⟨{ k with client := none }, []⟩ where
  tidy :=
    { bounded := hbounded
      single := fun m _ hm _ => absurd hm (hidle m)
      owned := fun n hn => absurd hn (hidle n)
      charge := fun n hn => by
        have hn : k.worker = some n := hn
        rw [hworker] at hn
        cases hn
      stopped := fun _ hcall => nomatch hcall }
  waiting := rfl
  worker := hworker
  client := rfl

/-- A call that closes has ended: with the connection quiet, unless it opens the connection anew. It
is a fault if the loop that was in charge has crashed, and nothing is opened then. -/
def Ended (s : Shared) (target : String) (reopens : Bool) (result : Except Upstream.LinkFault Unit)
    (s' : Shared) : Prop :=
  ∃ q : Shared, q.Quiet ∧ q.link.target = target ∧
    (result = .ok () ∧ ¬Failed s q ∧ s' = (if reopens then q.step .open else q) ∨
      result = .error (crashFault s.link) ∧ Failed s q ∧ s' = q)

/-- No loop is in charge. -/
theorem ended_atOnce {s₀ : Shared} {reopens : Bool} (htidy : s₀.Tidy) (hidle : s₀.waiting = [])
    (hnone : s₀.link.worker = none) (hworker : s.link.worker = s₀.link.worker)
    (he : s₀.begin reopens = ⟨conclude none reopens s₀.link, []⟩) :
    Ended s s₀.link.target reopens (.ok ()) (s₀.begin reopens) := by
  have hquiet : Quiet ⟨{ s₀.link with client := none }, []⟩ :=
    quiet_cleared htidy.bounded hnone (not_busy_of_idle htidy hnone hidle)
  refine ⟨_, hquiet, rfl, Or.inl ⟨rfl, ?_, ?_⟩⟩
  · rintro ⟨n, hn, -⟩
    rw [hworker, hnone] at hn
    cases hn
  · rw [he]
    cases reopens <;> rfl

/-- The loop that was in charge is over, and the call that waits for it goes on. -/
theorem ended_later {s₂ : Shared} {n : Nat} {reopens : Bool} (htidy : s₂.Tidy)
    (hwaiting : s₂.waiting = [⟨n, reopens⟩]) (hnone : s₂.link.worker = none)
    (hcharge : s.link.worker = some n) (hname : s₂.link.name = s.link.name)
    (hover : s₂.link.finished n = true) :
    Ended s s₂.link.target reopens (s₂.link.endClose (some n)).1 (s₂.step (.resume 0)) := by
  have hresume : s₂.step (.resume 0) = ⟨conclude (some n) reopens s₂.link, []⟩ := by
    simp [step, hwaiting, hover]
  -- Whatever is at work is the loop that the call waited for, and that is over.
  have hquiet : Quiet ⟨{ s₂.link with client := none }, []⟩ := by
    refine quiet_cleared htidy.bounded hnone fun m hm => ?_
    rcases htidy.owned m hm with hw | ⟨call, hcall, rfl⟩
    · rw [hnone] at hw
      cases hw
    · rw [hwaiting, List.mem_singleton] at hcall
      subst hcall
      have hm : s₂.link.finished n = false := hm
      rw [hover] at hm
      cases hm
  refine ⟨_, hquiet, rfl, ?_⟩
  by_cases hph : s₂.link.phase n = some .crashed
  · refine Or.inr ⟨?_, ⟨n, hcharge, hph⟩, ?_⟩
    · rw [endClose_crashed hph, crashFault, crashFault, hname]
    · rw [hresume, conclude_crashed hph]
  · refine Or.inl ⟨endClose_ended hph, ?_, ?_⟩
    · rintro ⟨m, hm, hphm⟩
      rw [hcharge] at hm
      cases hm
      exact hph hphm
    · rw [hresume, conclude_ended hph]
      cases reopens <;> rfl

theorem returns_cases {s₀ s' : Shared} {act : Act} {reopens : Bool} {moves : List (Nat × Move)}
    {result : Except Upstream.LinkFault Unit} (htidy : s₀.Tidy) (hidle : s₀.waiting = [])
    (hact : s.step act = s₀.begin reopens) (hworker : s.link.worker = s₀.link.worker)
    (hname : s.link.name = s₀.link.name) (h : Returns s act moves result s') :
    Ended s s₀.link.target reopens result s' := by
  have hbegun : (s₀.begin reopens).Sole := sole_begin htidy hidle
  cases h with
  | atOnce hwaiting =>
    rw [hact] at hwaiting ⊢
    rcases begin_of_idle htidy hidle reopens with ⟨hnone, he⟩ | ⟨n, l, -, -, he⟩
    · exact ended_atOnce htidy hidle hnone hworker he
    · rw [he] at hwaiting
      cases hwaiting
  | @later call moves hwaiting hover =>
    rw [hact] at hwaiting hover ⊢
    rcases begin_of_idle htidy hidle reopens with ⟨-, he⟩ | ⟨n, l, hn, -, he⟩
    · rw [he] at hwaiting
      cases hwaiting
    · obtain rfl : ⟨n, reopens⟩ = call := by
        rw [he] at hwaiting
        exact (List.cons.inj hwaiting).1
      obtain ⟨hwaiting₂, hworker₂, htarget₂, hname₂⟩ := same_stir moves (s₀.begin reopens)
      rw [hwaiting] at hwaiting₂
      rw [he] at hworker₂ htarget₂ hname₂
      have htarget₂ : ((s₀.begin reopens).stir moves).link.target = s₀.link.target := by
        rw [he]
        exact htarget₂
      rw [← htarget₂]
      refine ended_later (tidy_stir hbegun.tidy moves) hwaiting₂ ?_ (hworker.trans hn) ?_ hover
      · rw [he]
        exact hworker₂
      · rw [he, hname]
        exact hname₂

/-- A call that closes returns once the loop in charge makes use of a chance to stop, whatever the
loops do before. -/
theorem exists_returns {s₀ : Shared} {act : Act} {reopens : Bool} (htidy : s₀.Tidy)
    (hidle : s₀.waiting = []) (hact : s.step act = s₀.begin reopens) :
    (∃ s', Returns s act [] (.ok ()) s') ∨
      ∃ n, s₀.link.worker = some n ∧
        ∀ moves, ∃ result s', Returns s act (moves ++ [(n, .stop)]) result s' := by
  rcases begin_of_idle htidy hidle reopens with ⟨-, he⟩ | ⟨n, l, hn, -, he⟩
  · exact Or.inl ⟨_, .atOnce (by rw [hact, he])⟩
  · have hbegun : (s₀.begin reopens).Sole := sole_begin htidy hidle
    have hwaits : (s.step act).waiting = [⟨n, reopens⟩] := by rw [hact, he]
    refine Or.inr ⟨n, hn, fun moves => ⟨_, _, .later hwaits ?_⟩⟩
    -- The loop has been told, and stays told.
    have htidy' := tidy_stir hbegun.tidy moves
    have hwaiting := (same_stir moves (s₀.begin reopens)).1
    rw [hact, stir_append]
    generalize (s₀.begin reopens).stir moves = s₂ at htidy' hwaiting ⊢
    have hmem : (⟨n, reopens⟩ : Call) ∈ s₂.waiting := by
      rw [hwaiting, he]
      exact List.mem_singleton_self _
    obtain ⟨l', hl', htold⟩ := htidy'.stopped _ hmem
    exact finished_stop hl' htold

/-! ### After a close -/

/-- A quiet connection stays as it is until a call opens it. -/
theorem step_of_quiet (h : s.Quiet) {act : Act} (hact : act.isOpening = false) :
    s.step act = s := by
  cases act with
  | «open» => cases hact
  | update target => cases hact
  | close =>
    show s.begin false = s
    rcases begin_of_idle h.tidy h.waiting false with ⟨-, he⟩ | ⟨n, l, hn, -, -⟩
    · rw [he]
      obtain ⟨k, waiting⟩ := s
      obtain rfl : waiting = [] := h.waiting
      have hclient : k.client = none := h.client
      show Shared.mk { k with client := none } [] = ⟨k, []⟩
      rw [← hclient]
    · rw [h.worker] at hn
      cases hn
  | resume k =>
    rcases resume_cases s k with he | ⟨call, hcall, -, -⟩
    · exact he
    · rw [h.waiting] at hcall
      cases hcall
  | loop n move =>
    rcases loop_cases s n move with he | ⟨l, hl, hf, -⟩
    · exact he
    · exact absurd (busy_iff.mpr ⟨l, hl, (make_eq hl hf).1⟩) (h.not_busy n)

theorem run_of_quiet (h : s.Quiet) {acts : List Act} (hacts : ∀ act ∈ acts, act.isOpening = false) :
    s.run acts = s := by
  induction acts with
  | nil => rfl
  | cons act rest ih =>
    show (s.step act).run rest = s
    rw [step_of_quiet h (hacts act List.mem_cons_self)]
    exact ih fun a ha => hacts a (List.mem_cons_of_mem _ ha)

/-- To open a quiet connection begins one loop, which no loop has been before, and puts it in
charge. -/
theorem open_of_quiet (h : s.Quiet) :
    (s.step .open).link = s.link.begun ∧ s.link.loops.get? s.link.count = none ∧
      ∀ n, (s.step .open).link.Busy n ↔ n = s.link.count := by
  have hopen : (s.step .open).link = s.link.begun := by
    rcases open_cases s.link with ⟨hworking, -⟩ | ⟨-, he⟩
    · rw [working, h.worker] at hworking
      cases hworking
    · exact he
  refine ⟨hopen, ?_, fun n => ?_⟩
  -- Loops are numbered from below, so the number of the new one is free.
  · cases hl : s.link.loops.get? s.link.count with
    | none => rfl
    | some l => exact absurd (h.tidy.bounded _ _ hl) (Nat.lt_irrefl _)
  · rw [hopen]
    constructor
    · intro hn
      by_cases hnk : n = s.link.count
      · exact hnk
      · obtain ⟨l, hl, hf⟩ := busy_iff.mp hn
        refine absurd (busy_iff.mpr ⟨l, ?_, hf⟩) (h.not_busy n)
        exact (Table.get?_set_other _ _ hnk).symm.trans hl
    · rintro rfl
      exact busy_iff.mpr ⟨_, Table.get?_set_self _ _ _, rfl⟩

end

end Shared

end NodeStack.Link
