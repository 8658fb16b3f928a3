import NodeStack.Link.Basic

/-!
# `NodeStack.Proofs.Link.Interleaving`: one live link, and it is the published one

Several callers may open, close and redirect a connection at the same time. A call that closes waits
for the loop that it stopped, and anything can happen meanwhile. `Shared` is a connection with the
calls that wait so, and `Act` lists what can happen: a call begins, a call whose loop is over goes
on, and a loop makes a move.

* `OneLink`: at most one loop holds a live link, and if the loop in charge holds one, its client is
  the published one.
* `oneLink_of_orderly`: that holds as long as no loop is begun while a call waits, and it need not
  hold any more once one is.
* `not_oneLink_overlap`: two live links at once, and after that a live link without a client.

A call that waits has already given up its loop's place, so another call can put a new loop in
charge before the old one is over. The old loop takes back whatever client is published when it
ends, and so does the call when it goes on.
-/

set_option autoImplicit false

namespace NodeStack.Link

/-! ### Runs -/

/-- A call that has stopped a loop and waits for its end. -/
structure Call where
  /-- The loop that it waits for. -/
  awaited : Nat
  /-- It opens the connection anew afterwards. -/
  reopens : Bool
  deriving Repr, DecidableEq

/-- A connection and the calls that wait, oldest first. -/
structure Shared where
  link : Link
  waiting : List Call

/-- A move of a loop. -/
inductive Move where
  | dial
  | dialled (client : Nat)
  | refused (now : Nat)
  | crashed
  | broke
  | rested
  | stop
  deriving Repr, DecidableEq

/-- Whether a loop can make a move. A loop that has been told to stop can still be quicker with
another move. It can crash while it dials and while it watches its live link. -/
def Move.fits (l : Loop) : Move → Bool
  | .dial => l.phase == .ready
  | .dialled _ | .refused _ => l.phase == .dialling
  | .crashed => match l.phase with
    | .dialling | .linked _ => true
    | _ => false
  | .broke => match l.phase with
    | .linked _ => true
    | _ => false
  | .rested => match l.phase with
    | .resting _ => true
    | _ => false
  | .stop => l.told && !l.finished

/-- A loop makes a move. -/
def Move.make (n : Nat) : Move → Link → Link
  | .dial => Link.dial n
  | .dialled client => Link.dialled n client
  | .refused now => Link.refused n now
  | .crashed => Link.crashed n
  | .broke => Link.broke n
  | .rested => Link.rested n
  | .stop => Link.stop n

/-- What can happen to a connection. -/
inductive Act where
  /-- A call opens it. -/
  | open
  /-- A call begins to close it. -/
  | close
  /-- A call begins to redirect it. -/
  | update (target : String)
  /-- A call whose loop is over goes on. -/
  | resume (k : Nat)
  /-- A loop makes a move. -/
  | loop (n : Nat) (move : Move)
  deriving Repr, DecidableEq

/-- A call that closes ends, and opens the connection anew if it was to and nothing failed. -/
def conclude (awaited : Option Nat) (reopens : Bool) (k : Link) : Link :=
  match k.endClose awaited with
  | (.ok _, k) => if reopens then k.open_ else k
  | (.error _, k) => k

namespace Shared

/-- A call begins to close, and waits if there is a loop in charge. -/
def begin (reopens : Bool) (s : Shared) : Shared :=
  match s.link.beginClose with
  | (some n, k) => ⟨k, s.waiting ++ [⟨n, reopens⟩]⟩
  | (none, k) => ⟨conclude none reopens k, s.waiting⟩

/-- What an act makes of a connection; nothing if it cannot happen. -/
def step (s : Shared) : Act → Shared
  | .open => { s with link := s.link.open_ }
  | .close => s.begin false
  | .update target => { s with link := s.link.retarget target }.begin true
  | .resume k =>
    match s.waiting[k]? with
    | some call =>
      if s.link.finished call.awaited then
        ⟨conclude (some call.awaited) call.reopens s.link, s.waiting.eraseIdx k⟩
      else s
    | none => s
  | .loop n move =>
    match s.link.loops.get? n with
    | some l => if move.fits l then { s with link := move.make n s.link } else s
    | none => s

/-- The connection after some acts. -/
def run (acts : List Act) (s : Shared) : Shared := acts.foldl step s

/-- No loop is begun while a call waits. -/
def OrderlyStep (s : Shared) (act : Act) : Prop :=
  (s.step act).link.count = s.link.count ∨ (s.step act).waiting = []

/-- No loop is ever begun while a call waits. -/
def Orderly : List Act → Shared → Prop
  | [], _ => True
  | act :: rest, s => s.OrderlyStep act ∧ Orderly rest (s.step act)

/-- At most one loop holds a live link, and if the loop in charge holds one, its client is the
published one. -/
structure OneLink (s : Shared) : Prop where
  single : ∀ m n c d, s.link.phase m = some (.linked c) → s.link.phase n = some (.linked d) → m = n
  published : ∀ n c, s.link.worker = some n → s.link.phase n = some (.linked c) →
    s.link.client = some c

end Shared

/-! ### What an act does -/

/-- A loop is at work. -/
def Busy (k : Link) (n : Nat) : Prop := k.finished n = false

section
variable {k : Link} {n : Nat} {l : Loop}

theorem busy_iff : k.Busy n ↔ ∃ l, k.loops.get? n = some l ∧ l.finished = false := by
  unfold Busy finished
  cases k.loops.get? n with
  | none => simp
  | some l => simp

theorem phase_eq_some {ph : Phase} : k.phase n = some ph ↔
    ∃ l, k.loops.get? n = some l ∧ l.phase = ph :=
  Option.map_eq_some_iff

/-- A loop with a live link is at work. -/
theorem busy_of_linked {c : Nat} (h : k.phase n = some (.linked c)) : k.Busy n := by
  obtain ⟨l, hl, hph⟩ := phase_eq_some.mp h
  exact busy_iff.mpr ⟨l, hl, by rw [Loop.finished, hph]⟩

/-- A change to one loop, unless it sets it to work, leaves no other loop at work than before. -/
theorem busy_of_set {k' : Link} {l' : Loop} {m : Nat} (hk : k'.loops = k.loops.set n l')
    (hl : k.loops.get? n = some l) (hf : l'.finished = false → l.finished = false)
    (h : k'.Busy m) : k.Busy m := by
  obtain ⟨u, hu, hfin⟩ := busy_iff.mp h
  rw [hk] at hu
  by_cases hmn : m = n
  · subst hmn
    rw [Table.get?_set_self] at hu
    cases hu
    exact busy_iff.mpr ⟨l, hl, hf hfin⟩
  · exact busy_iff.mpr ⟨u, (Table.get?_set_other _ _ hmn).symm.trans hu, hfin⟩

/-- The connection with a new loop in charge. -/
def begun (k : Link) : Link :=
  { k with
    worker := some k.count
    loops := k.loops.set k.count ⟨k.target, .ready, false⟩
    count := k.count + 1 }

/-- To open a connection does nothing if a loop is at work in charge, and else begins one. -/
theorem open_cases (k : Link) :
    (k.working = true ∧ k.open_ = k) ∨ (k.working = false ∧ k.open_ = k.begun) := by
  unfold open_
  cases k.working with
  | true => exact Or.inl ⟨rfl, rfl⟩
  | false => exact Or.inr ⟨rfl, rfl⟩

/-- A call that closes ends with no client in use, and may then open. -/
theorem conclude_cases (awaited : Option Nat) (reopens : Bool) (k : Link) :
    conclude awaited reopens k = { k with client := none } ∨
    conclude awaited reopens k = open_ { k with client := none } := by
  unfold conclude endClose
  dsimp only
  cases (awaited.bind fun n => k.phase n) == some Phase.crashed with
  | true => exact Or.inl rfl
  | false =>
    cases reopens with
    | true => exact Or.inr rfl
    | false => exact Or.inl rfl

/-- What a move makes of a connection: its loop is in another phase, and if it holds a live link
then, the client of that link is published. -/
theorem make_eq {move : Move} (hl : k.loops.get? n = some l) (hf : move.fits l = true) :
    l.finished = false ∧ ∃ ph client generation,
      move.make n k = { k with
        loops := k.loops.set n { l with phase := ph }
        client := client
        generation := generation } ∧
      ∀ c, ph = .linked c → client = some c := by
  have hset : ∀ ph, k.setPhase n ph = { k with loops := k.loops.set n { l with phase := ph } } := by
    intro ph
    rw [setPhase, hl]
  cases move with
  | dial =>
    have hph : l.phase = .ready := eq_of_beq hf
    exact ⟨by rw [Loop.finished, hph], .dialling, k.client, k.generation, hset _, by simp⟩
  | dialled client =>
    have hph : l.phase = .dialling := eq_of_beq hf
    refine ⟨by rw [Loop.finished, hph], .linked client, some client, k.generation + 1, ?_, ?_⟩
    · show { k.setPhase n (.linked client) with
        client := some client
        generation := k.generation + 1 } = _
      rw [hset]
    · intro c hc
      cases hc
      rfl
  | refused now =>
    have hph : l.phase = .dialling := eq_of_beq hf
    exact ⟨by rw [Loop.finished, hph], .resting (now + k.retryDelay), k.client, k.generation,
      hset _, by simp⟩
  | crashed =>
    refine ⟨?_, .crashed, k.client, k.generation, hset _, by simp⟩
    rw [Move.fits] at hf
    split at hf
    · next hph => rw [Loop.finished, hph]
    · next hph => rw [Loop.finished, hph]
    · cases hf
  | broke =>
    refine ⟨?_, .ready, none, k.generation, ?_, by simp⟩
    · rw [Move.fits] at hf
      split at hf
      · next hph => rw [Loop.finished, hph]
      · cases hf
    · show { k.setPhase n .ready with client := none } = _
      rw [hset]
  | rested =>
    refine ⟨?_, .ready, k.client, k.generation, hset _, by simp⟩
    rw [Move.fits] at hf
    split at hf
    · next hph => rw [Loop.finished, hph]
    · cases hf
  | stop =>
    have hf : (l.told && !l.finished) = true := hf
    rw [Bool.and_eq_true, Bool.not_eq_true'] at hf
    refine ⟨hf.2, .ended, none, k.generation, ?_, by simp⟩
    show { k.setPhase n .ended with client := none } = _
    rw [hset]

end

namespace Shared

/-- A call that waits goes on if its loop is over. -/
theorem resume_cases (s : Shared) (k : Nat) :
    s.step (.resume k) = s ∨
    ∃ call, s.waiting[k]? = some call ∧ s.link.finished call.awaited = true ∧
      s.step (.resume k) =
        ⟨conclude (some call.awaited) call.reopens s.link, s.waiting.eraseIdx k⟩ := by
  cases hcall : s.waiting[k]? with
  | none => exact Or.inl (by simp only [step, hcall])
  | some call =>
    cases hfin : s.link.finished call.awaited with
    | false => exact Or.inl (by simp [step, hcall, hfin])
    | true => exact Or.inr ⟨call, rfl, hfin, by simp [step, hcall, hfin]⟩

/-- A loop makes a move if it can. -/
theorem loop_cases (s : Shared) (n : Nat) (move : Move) :
    s.step (.loop n move) = s ∨
    ∃ l, s.link.loops.get? n = some l ∧ move.fits l = true ∧
      s.step (.loop n move) = { s with link := move.make n s.link } := by
  cases hl : s.link.loops.get? n with
  | none => exact Or.inl (by simp only [step, hl])
  | some l =>
    cases hf : move.fits l with
    | false => exact Or.inl (by simp [step, hl, hf])
    | true => exact Or.inr ⟨l, rfl, hf, by simp [step, hl, hf]⟩

/-! ### Orderly runs -/

/-- What holds while no loop is begun before all calls have gone on: only one loop is at work, it is
in charge or a call waits for it, and never both. -/
structure Tidy (s : Shared) : Prop where
  bounded : ∀ n l, s.link.loops.get? n = some l → n < s.link.count
  single : ∀ m n, s.link.Busy m → s.link.Busy n → m = n
  owned : ∀ n, s.link.Busy n → s.link.worker = some n ∨ ∃ call ∈ s.waiting, call.awaited = n
  charge : ∀ n, s.link.worker = some n → s.waiting = [] ∧
    ∃ l, s.link.loops.get? n = some l ∧ l.told = false ∧
      ∀ c, l.phase = .linked c → s.link.client = some c
  stopped : ∀ call ∈ s.waiting, ∃ l, s.link.loops.get? call.awaited = some l ∧ l.told = true

section
variable {s : Shared} {k : Link}

theorem tidy_create (name target : String) (delay : Nat) :
    Tidy ⟨Link.create name target delay, []⟩ where
  bounded _ _ h := nomatch h
  single _ _ h := nomatch h
  owned _ h := nomatch h
  charge _ h := nomatch h
  stopped _ h := nomatch h

theorem Tidy.worker_of_waiting {call : Call} (h : s.Tidy) (hcall : call ∈ s.waiting) :
    s.link.worker = none := by
  cases hw : s.link.worker with
  | none => rfl
  | some n =>
    rw [(h.charge n hw).1] at hcall
    cases hcall

theorem Tidy.oneLink (h : s.Tidy) : s.OneLink where
  single m n _ _ hm hn := h.single m n (busy_of_linked hm) (busy_of_linked hn)
  published n c hw hn := by
    obtain ⟨-, l, hl, -, hpublished⟩ := h.charge n hw
    obtain ⟨l', hl', hph⟩ := phase_eq_some.mp hn
    rw [hl] at hl'
    cases hl'
    exact hpublished c hph

/-- A move of a loop. -/
theorem tidy_move {n : Nat} {l : Loop} {move : Move} (h : s.Tidy)
    (hl : s.link.loops.get? n = some l) (hf : move.fits l = true) :
    Tidy { s with link := move.make n s.link } := by
  obtain ⟨hfin, ph, client, generation, he, hlinked⟩ := make_eq hl hf
  have hbusy : s.link.Busy n := busy_iff.mpr ⟨l, hl, hfin⟩
  rw [he]
  -- Only the loop that moves has changed, and it was at work.
  have hother : ∀ m, m ≠ n →
      (s.link.loops.set n { l with phase := ph }).get? m = s.link.loops.get? m :=
    fun m hm => Table.get?_set_other _ _ hm
  have hmono : ∀ m, Busy { s.link with
      loops := s.link.loops.set n { l with phase := ph }
      client := client
      generation := generation } m → s.link.Busy m :=
    fun m => busy_of_set rfl hl fun _ => hfin
  refine ⟨fun m l' hl' => ?_, fun m m' hm hm' => h.single m m' (hmono m hm) (hmono m' hm'),
    fun m hm => h.owned m (hmono m hm), fun w hw => ?_, fun call hcall => ?_⟩
  · by_cases hmn : m = n
    · rw [hmn]
      exact h.bounded n l hl
    · exact h.bounded m l' ((hother m hmn).symm.trans hl')
  · obtain ⟨hwaiting, l', hl', htold, hpublished⟩ := h.charge w hw
    refine ⟨hwaiting, ?_⟩
    by_cases hwn : w = n
    · rw [hwn, hl] at hl'
      cases hl'
      rw [hwn]
      exact ⟨_, Table.get?_set_self _ _ _, htold, hlinked⟩
    · refine ⟨l', (hother w hwn).trans hl', htold, fun c hc => absurd ?_ hwn⟩
      have hlive : s.link.phase w = some (.linked c) := phase_eq_some.mpr ⟨l', hl', hc⟩
      exact h.single w n (busy_of_linked hlive) hbusy
  · obtain ⟨l', hl', htold⟩ := h.stopped call hcall
    by_cases hcn : call.awaited = n
    · rw [hcn, hl] at hl'
      cases hl'
      rw [hcn]
      exact ⟨_, Table.get?_set_self _ _ _, htold⟩
    · exact ⟨l', (hother _ hcn).trans hl', htold⟩

/-- To open a connection while no call waits. -/
theorem tidy_open (h : Tidy ⟨k, []⟩) : Tidy ⟨k.open_, []⟩ := by
  rcases open_cases k with ⟨-, he⟩ | ⟨hworking, he⟩ <;> rw [he]
  · exact h
  · have hidle : ∀ n, ¬k.Busy n := by
      intro n hn
      rcases h.owned n hn with hw | ⟨call, hcall, -⟩
      · have hw : k.worker = some n := hw
        have hn : k.finished n = false := hn
        rw [working, hw] at hworking
        dsimp only at hworking
        rw [hn] at hworking
        cases hworking
      · cases hcall
    have hnew : ∀ n, k.begun.Busy n → n = k.count := by
      intro n hn
      by_cases hnk : n = k.count
      · exact hnk
      · obtain ⟨l, hl, hf⟩ := busy_iff.mp hn
        refine absurd (busy_iff.mpr ⟨l, ?_, hf⟩) (hidle n)
        exact (Table.get?_set_other _ _ hnk).symm.trans hl
    refine ⟨fun n l hl => ?_, fun m n hm hn => (hnew m hm).trans (hnew n hn).symm,
      fun n hn => Or.inl (congrArg some (hnew n hn).symm), fun n hw => ?_,
      fun call hcall => nomatch hcall⟩
    · by_cases hnk : n = k.count
      · show n < k.count + 1
        omega
      · have hlt := h.bounded n l ((Table.get?_set_other _ _ hnk).symm.trans hl)
        exact Nat.lt_succ_of_lt hlt
    · obtain rfl := Option.some.inj hw
      exact ⟨rfl, _, Table.get?_set_self _ _ _, rfl, fun _ hc => nomatch hc⟩

/-- A call that closes ends while no loop is in charge. -/
theorem tidy_conclude {awaited : Option Nat} {reopens : Bool} {rest : List Call} (h : s.Tidy)
    (hw : s.link.worker = none) (hrest : ∀ call ∈ rest, call ∈ s.waiting)
    (hbusy : ∀ n, s.link.Busy n → ∃ call ∈ rest, call.awaited = n)
    (hs : (conclude awaited reopens s.link).count = s.link.count ∨ rest = []) :
    Tidy ⟨conclude awaited reopens s.link, rest⟩ := by
  have hcleared : Tidy ⟨{ s.link with client := none }, rest⟩ := by
    refine ⟨h.bounded, h.single, fun n hn => Or.inr (hbusy n hn), fun n hn => ?_,
      fun call hcall => h.stopped call (hrest call hcall)⟩
    have hn : s.link.worker = some n := hn
    rw [hw] at hn
    cases hn
  rcases conclude_cases awaited reopens s.link with he | he
  · rw [he]
    exact hcleared
  · rw [he] at hs ⊢
    rcases open_cases { s.link with client := none } with ⟨-, hsame⟩ | ⟨-, hnew⟩
    · rw [hsame]
      exact hcleared
    · rw [hnew] at hs
      rcases hs with hs | rfl
      · have hs : s.link.count + 1 = s.link.count := hs
        omega
      · exact tidy_open hcleared

/-- A call that closes ends at once if no loop is in charge, and else waits for that loop. -/
theorem begin_cases (h : s.Tidy) (reopens : Bool) :
    (s.link.worker = none ∧ s.begin reopens = ⟨conclude none reopens s.link, s.waiting⟩) ∨
    ∃ n l, s.link.worker = some n ∧ s.link.loops.get? n = some l ∧
      s.begin reopens = ⟨{ s.link with
        worker := none
        loops := s.link.loops.set n { l with told := true } }, [⟨n, reopens⟩]⟩ := by
  cases hw : s.link.worker with
  | none =>
    have hclose : s.link.beginClose = (none, s.link) := by rw [beginClose, hw]
    exact Or.inl ⟨rfl, by rw [Shared.begin, hclose]⟩
  | some n =>
    obtain ⟨hwaiting, l, hl, -, -⟩ := h.charge n hw
    have hclose : s.link.beginClose = (some n, { s.link with
        worker := none
        loops := s.link.loops.set n { l with told := true } }) := by
      rw [beginClose, hw]
      dsimp only
      rw [hl]
    refine Or.inr ⟨n, l, rfl, hl, ?_⟩
    rw [Shared.begin, hclose]
    dsimp only
    rw [hwaiting]
    rfl

/-- A call begins to close. -/
theorem tidy_begin {reopens : Bool} (h : s.Tidy)
    (hs : (s.begin reopens).link.count = s.link.count ∨ (s.begin reopens).waiting = []) :
    (s.begin reopens).Tidy := by
  rcases begin_cases h reopens with ⟨hw, he⟩ | ⟨n, l, hw, hl, he⟩
  · rw [he] at hs ⊢
    refine tidy_conclude h hw (fun _ hcall => hcall) (fun n hn => ?_) hs
    rcases h.owned n hn with howned | howned
    · rw [hw] at howned
      cases howned
    · exact howned
  · rw [he]
    have hmono : ∀ m, Busy { s.link with
        worker := none
        loops := s.link.loops.set n { l with told := true } } m → s.link.Busy m :=
      fun m => busy_of_set rfl hl fun hf => hf
    refine ⟨fun m l' hl' => ?_, fun m m' hm hm' => h.single m m' (hmono m hm) (hmono m' hm'),
      fun m hm => Or.inr ⟨_, List.mem_singleton_self _, ?_⟩, fun m hm => (nomatch hm),
      fun call hcall => ?_⟩
    · by_cases hmn : m = n
      · rw [hmn]
        exact h.bounded n l hl
      · exact h.bounded m l' ((Table.get?_set_other _ _ hmn).symm.trans hl')
    · -- Whatever is at work is the loop that was in charge.
      rcases h.owned m (hmono m hm) with howned | ⟨call, hcall, -⟩
      · rw [hw] at howned
        exact Option.some.inj howned
      · rw [(h.charge n hw).1] at hcall
        cases hcall
    · rw [List.mem_singleton.mp hcall]
      exact ⟨_, Table.get?_set_self _ _ _, rfl⟩

/-- An act that begins no loop while a call waits. -/
theorem tidy_step (h : s.Tidy) {act : Act} (hs : s.OrderlyStep act) : (s.step act).Tidy := by
  cases act with
  | «open» =>
    rcases open_cases s.link with ⟨-, he⟩ | ⟨-, he⟩
    · show Tidy ⟨s.link.open_, s.waiting⟩
      rw [he]
      exact h
    · have hs : s.link.open_.count = s.link.count ∨ s.waiting = [] := hs
      rcases hs with hs | hs
      · rw [he] at hs
        have hs : s.link.count + 1 = s.link.count := hs
        omega
      · show Tidy ⟨s.link.open_, s.waiting⟩
        rw [hs]
        refine tidy_open ?_
        rw [← hs]
        exact h
  | close => exact tidy_begin h hs
  | update target =>
    have hretargeted : Tidy { s with link := s.link.retarget target } :=
      ⟨h.bounded, h.single, h.owned, h.charge, h.stopped⟩
    exact tidy_begin hretargeted hs
  | resume k =>
    rcases resume_cases s k with he | ⟨call, hcall, hfin, he⟩
    · rw [he]
      exact h
    · rw [OrderlyStep, he] at hs
      rw [he]
      have hmem := List.mem_of_getElem? hcall
      refine tidy_conclude h (h.worker_of_waiting hmem)
        (fun c hc => List.mem_of_mem_eraseIdx hc) (fun n hn => ?_) hs
      rcases h.owned n hn with howned | ⟨call', hcall', hawaited⟩
      · rw [h.worker_of_waiting hmem] at howned
        cases howned
      · -- A loop at work is awaited by a call other than the one that goes on.
        obtain ⟨j, hj⟩ := List.getElem?_of_mem hcall'
        refine ⟨call', List.mem_eraseIdx_iff_getElem?.mpr ⟨j, fun hjk => ?_, hj⟩, hawaited⟩
        rw [hjk, hcall] at hj
        cases hj
        have hn : s.link.finished n = false := hn
        rw [← hawaited, hfin] at hn
        cases hn
  | loop n move =>
    rcases loop_cases s n move with he | ⟨l, hl, hf, he⟩ <;> rw [he]
    · exact h
    · exact tidy_move h hl hf

theorem tidy_run {acts : List Act} (h : s.Tidy) (ho : Orderly acts s) : (s.run acts).Tidy := by
  induction acts generalizing s with
  | nil => exact h
  | cons act rest ih => exact ih (tidy_step h ho.1) ho.2

/-! ### A loop begun too early -/

/-- A call that closes begins a loop only by opening the connection anew. -/
theorem conclude_begun {awaited : Option Nat} {reopens : Bool}
    (hc : (conclude awaited reopens k).count ≠ k.count) :
    conclude awaited reopens k = begun { k with client := none } := by
  rcases conclude_cases awaited reopens k with he | he
  · rw [he] at hc
    exact absurd rfl hc
  · rcases open_cases { k with client := none } with ⟨-, hsame⟩ | ⟨-, hnew⟩
    · rw [he, hsame] at hc
      exact absurd rfl hc
    · rw [he, hnew]

theorem begin_begun {reopens : Bool} (h : s.Tidy)
    (hc : (s.begin reopens).link.count ≠ s.link.count) :
    s.begin reopens = ⟨begun { s.link with client := none }, s.waiting⟩ := by
  rcases begin_cases h reopens with ⟨-, he⟩ | ⟨n, l, -, -, he⟩ <;> rw [he] at hc
  · rw [he, conclude_begun hc]
  · exact absurd rfl hc

/-- An act that begins a loop while a call waits puts the new loop in charge, and leaves the others
as they are. -/
theorem begun_of_not_orderly {act : Act} (h : s.Tidy) (hs : ¬s.OrderlyStep act) :
    ∃ k : Link, (s.step act).link = k.begun ∧ k.loops = s.link.loops ∧ k.count = s.link.count ∧
      ∃ call rest, (s.step act).waiting = call :: rest ∧ call ∈ s.waiting := by
  rw [OrderlyStep, not_or] at hs
  obtain ⟨hcount, hwaiting⟩ := hs
  obtain ⟨call, rest, hcall⟩ := List.exists_cons_of_ne_nil hwaiting
  have hhead : call ∈ (s.step act).waiting := hcall ▸ List.mem_cons_self
  cases act with
  | «open» =>
    rcases open_cases s.link with ⟨-, he⟩ | ⟨-, he⟩
    · have hcount : s.link.open_.count ≠ s.link.count := hcount
      rw [he] at hcount
      exact absurd rfl hcount
    · exact ⟨s.link, he, rfl, rfl, call, rest, hcall, hhead⟩
  | close =>
    have he : s.step .close = _ := begin_begun h hcount
    rw [he] at hcall hhead ⊢
    exact ⟨_, rfl, rfl, rfl, call, rest, hcall, hhead⟩
  | update target =>
    have hretargeted : Tidy { s with link := s.link.retarget target } :=
      ⟨h.bounded, h.single, h.owned, h.charge, h.stopped⟩
    have he : s.step (.update target) = _ := begin_begun hretargeted hcount
    rw [he] at hcall hhead ⊢
    exact ⟨_, rfl, rfl, rfl, call, rest, hcall, hhead⟩
  | resume j =>
    rcases resume_cases s j with he | ⟨call', -, -, he⟩ <;> rw [he] at hcount hcall hhead ⊢
    · exact absurd rfl hcount
    · exact ⟨_, conclude_begun hcount, rfl, rfl, call, rest, hcall,
        List.mem_of_mem_eraseIdx hhead⟩
  | loop n move =>
    rcases loop_cases s n move with he | ⟨l, hl, hf, he⟩ <;> rw [he] at hcount
    · exact absurd rfl hcount
    · obtain ⟨-, ph, client, generation, hmake, -⟩ := make_eq hl hf
      dsimp only at hcount
      rw [hmake] at hcount
      exact absurd rfl hcount

/-- A loop that has not begun dials and is connected. -/
theorem connect (client : Nat) {m : Nat} {target : String}
    (hm : s.link.loops.get? m = some ⟨target, .ready, false⟩) :
    let s' := s.run [.loop m .dial, .loop m (.dialled client)]
    s'.waiting = s.waiting ∧ s'.link.worker = s.link.worker ∧
      s'.link.loops.get? m = some ⟨target, .linked client, false⟩ ∧
      ∀ n, n ≠ m → s'.link.loops.get? n = s.link.loops.get? n := by
  have hdial : s.step (.loop m .dial) = { s with link := { s.link with
      loops := s.link.loops.set m ⟨target, .dialling, false⟩ } } := by
    simp [step, hm, Move.fits, Move.make, Link.dial, setPhase]
  have hdialled : (s.step (.loop m .dial)).step (.loop m (.dialled client)) =
      { s with link := { s.link with
        loops := (s.link.loops.set m ⟨target, .dialling, false⟩).set m
          ⟨target, .linked client, false⟩
        client := some client
        generation := s.link.generation + 1 } } := by
    rw [hdial]
    simp [step, Move.fits, Move.make, Link.dialled, setPhase]
  intro s'
  have hs' : s' = _ := hdialled
  rw [hs']
  refine ⟨rfl, rfl, Table.get?_set_self _ _ _, fun n hn => ?_⟩
  exact (Table.get?_set_other _ _ hn).trans (Table.get?_set_other _ _ hn)

/-- While a call waits for another loop than the one in charge, that loop or that call can take back
the client of the live link. -/
theorem unpublish {m n : Nat} {l l' : Loop} {call : Call} {rest : List Call} {client : Nat}
    (hw : s.link.worker = some m) (hm : s.link.loops.get? m = some l)
    (hph : l.phase = .linked client) (hcall : s.waiting = call :: rest) (hn : call.awaited = n)
    (hl' : s.link.loops.get? n = some l') (htold : l'.told = true) (hne : m ≠ n) :
    ∃ act, ¬(s.step act).OneLink := by
  cases hfin : l'.finished with
  | true =>
    -- The loop is over, so the call can go on.
    refine ⟨.resume 0, fun hone => ?_⟩
    have hgoes : s.link.finished call.awaited = true := by
      unfold Link.finished
      rw [hn, hl']
      exact hfin
    have hworking : working { s.link with client := none } = true := by
      have hbusy : s.link.finished m = false := busy_of_linked (phase_eq_some.mpr ⟨l, hm, hph⟩)
      simp only [working, hw]
      show (!s.link.finished m) = true
      rw [hbusy]
      rfl
    have hend : conclude (some call.awaited) call.reopens s.link =
        { s.link with client := none } := by
      rcases conclude_cases (some call.awaited) call.reopens s.link with he | he
      · exact he
      · rw [he, open_, if_pos hworking]
    have hstep : s.step (.resume 0) = ⟨{ s.link with client := none }, rest⟩ := by
      simp [step, hcall, hgoes, hend]
    have hpublished := hone.published m client
    rw [hstep] at hpublished
    cases hpublished hw (phase_eq_some.mpr ⟨l, hm, hph⟩)
  | false =>
    refine ⟨.loop n .stop, fun hone => ?_⟩
    have hstep : s.step (.loop n .stop) = { s with link := { s.link with
        loops := s.link.loops.set n { l' with phase := .ended }
        client := none } } := by
      simp [step, hl', Move.fits, htold, hfin, Move.make, Link.stop, setPhase]
    have hpublished := hone.published m client
    rw [hstep] at hpublished
    have hm' := (Table.get?_set_other s.link.loops { l' with phase := .ended } hne).trans hm
    cases hpublished hw (phase_eq_some.mpr ⟨l, hm', hph⟩)

/-- Once a loop is begun while a call waits, there may be a live link without a client. -/
theorem broken_of_not_orderly {act : Act} (h : s.Tidy) (hs : ¬s.OrderlyStep act) :
    ∃ more, ¬((s.step act).run more).OneLink := by
  obtain ⟨k, hlink, hloops, hcount, call, rest, hcall, hmem⟩ := begun_of_not_orderly h hs
  obtain ⟨l', hl', htold⟩ := h.stopped call hmem
  have hne : call.awaited ≠ k.count := by
    rw [hcount]
    exact Nat.ne_of_lt (h.bounded _ _ hl')
  have hnew : (s.step act).link.loops.get? k.count = some ⟨k.target, .ready, false⟩ := by
    rw [hlink]
    exact Table.get?_set_self _ _ _
  have hold : (s.step act).link.loops.get? call.awaited = some l' := by
    rw [hlink, ← hl', ← hloops]
    exact Table.get?_set_other _ _ hne
  obtain ⟨hwaiting, hworker, hlive, hothers⟩ := connect 0 hnew
  rw [hlink] at hworker
  obtain ⟨last, hbroken⟩ := unpublish hworker hlive rfl (hwaiting.trans hcall) rfl
    ((hothers _ hne).trans hold) htold (Ne.symm hne)
  exact ⟨[.loop k.count .dial, .loop k.count (.dialled 0), last], hbroken⟩

end

/-- As long as no loop is begun while a call waits, at most one loop holds a live link, and the
client of the loop in charge is the published one. Once a loop is begun while a call waits, that
need not hold any more. -/
theorem oneLink_of_orderly (name target : String) (delay : Nat) (acts : List Act)
    (h : Orderly acts ⟨Link.create name target delay, []⟩) :
    let s := run acts ⟨Link.create name target delay, []⟩
    s.OneLink ∧ ∀ act, ¬s.OrderlyStep act → ∃ more, ¬((s.step act).run more).OneLink := by
  have htidy := tidy_run (tidy_create name target delay) h
  exact ⟨htidy.oneLink, fun act hs => broken_of_not_orderly htidy hs⟩

/-- A connection is redirected: the old loop ends before the call goes on and begins a new one, whose
client is then the published one. -/
theorem oneLink_of_orderly_update :
    let acts : List Act := [.open, .loop 0 .dial, .loop 0 (.dialled 1), .update "lnd:2",
      .loop 0 .stop, .resume 0, .loop 1 .dial, .loop 1 (.dialled 2)]
    let s := run acts ⟨Link.create "lnd" "lnd:1" 3000, []⟩
    s.link.worker = some 1 ∧ s.link.phase 1 = some (.linked 2) ∧ s.link.client = some 2 := by
  intro acts s
  have horderly : Orderly acts ⟨Link.create "lnd" "lnd:1" 3000, []⟩ :=
    ⟨Or.inr rfl, Or.inl rfl, Or.inl rfl, Or.inl rfl, Or.inl rfl, Or.inr rfl, Or.inl rfl,
      Or.inl rfl, trivial⟩
  obtain ⟨hone, -⟩ := oneLink_of_orderly "lnd" "lnd:1" 3000 acts horderly
  exact ⟨rfl, rfl, hone.published 1 2 rfl rfl⟩

/-- While a call waits for the old loop another call opens the connection. Both loops hold a live
link then, and when the old one ends, the link of the new one has no client. -/
theorem not_oneLink_overlap :
    let s := run [.open, .loop 0 .dial, .loop 0 (.dialled 1), .close, .open, .loop 1 .dial,
      .loop 1 (.dialled 2)] ⟨Link.create "lnd" "lnd:1" 3000, []⟩
    ¬s.OneLink ∧ ¬(s.step (.loop 0 .stop)).OneLink := by
  refine ⟨fun hone => ?_, fun hone => ?_⟩
  · cases hone.single 0 1 1 2 rfl rfl
  · cases hone.published 1 2 rfl rfl

end Shared

end NodeStack.Link
