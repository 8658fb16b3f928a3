import Mathlib.Data.List.Induction
import NodeStack.Launcher.Call
import NodeStack.Proofs.Exchange.Effect

/-!
# `NodeStack.Proofs.Launcher.Roster`: what an act does to the sessions of a roster

`Roster.Act` lists what can be done with a roster: launchers come and go, calls are begun, looked at
and given up, and texts and frames pass. Each of these comes to some acts of one exchange at most.

* `lookActs`, `beginActs`: a look at a call and the start of a call, told in acts of their exchange.
  `poll_eq` and `beginOn_snd` say that this is all they do to a roster.
* `step_cases`: so an act adds a session, or does nothing, or runs one session through its deeds.
* `Sound`: the sessions attached are open and stand in the order of their numbers, and each exchange
  is sound. `sound_run`: every run keeps it.
* `given_pairwise`: numbers rise from session to session.
* `mem_attached_run`: who is attached can be read off the acts alone.
* `get?_run`: what has become of a session is what its own deeds have made of it.
-/

set_option autoImplicit false

namespace NodeStack.Launcher

/-! ### One session of a roster -/

namespace Roster

variable {α : Type} {r : Roster} {id : Nat}

theorem onSession_of_none (default : α) (f : Exchange → α × Exchange)
    (h : r.sessions.get? id = none) : r.onSession id default f = (default, r) := by
  simp only [onSession, h]

theorem onSession_of_some (default : α) (f : Exchange → α × Exchange) {x : Exchange}
    (h : r.sessions.get? id = some x) :
    r.onSession id default f = ((f x).1, { r with sessions := r.sessions.set id (f x).2 }) := by
  simp only [onSession, h]

theorem modify_of_none (f : Exchange → Exchange) (h : r.sessions.get? id = none) :
    r.modify id f = r := by
  rw [modify, onSession_of_none _ _ h]

theorem modify_of_some (f : Exchange → Exchange) {x : Exchange}
    (h : r.sessions.get? id = some x) :
    r.modify id f = { r with sessions := r.sessions.set id (f x) } := by
  rw [modify, onSession_of_some _ _ h]

@[simp] theorem attached_modify (r : Roster) (id : Nat) (f : Exchange → Exchange) :
    (r.modify id f).attached = r.attached := by
  cases h : r.sessions.get? id with
  | none => rw [modify_of_none f h]
  | some x => rw [modify_of_some f h]

@[simp] theorem count_modify (r : Roster) (id : Nat) (f : Exchange → Exchange) :
    (r.modify id f).count = r.count := by
  cases h : r.sessions.get? id with
  | none => rw [modify_of_none f h]
  | some x => rw [modify_of_some f h]

/-- Changing one session leaves the others alone. -/
theorem get?_modify (r : Roster) (id : Nat) (f : Exchange → Exchange) (t : Nat) :
    (r.modify id f).sessions.get? t =
      if t = id then (r.sessions.get? t).map f else r.sessions.get? t := by
  by_cases ht : t = id
  · subst ht
    rw [if_pos rfl]
    cases h : r.sessions.get? t with
    | none => rw [modify_of_none f h, h]; rfl
    | some x => rw [modify_of_some f h]; exact Table.get?_set_self _ _ _
  · rw [if_neg ht]
    cases h : r.sessions.get? id with
    | none => rw [modify_of_none f h]
    | some x => rw [modify_of_some f h]; exact Table.get?_set_other _ _ ht

end Roster

/-! ### Calls, told in acts of their exchange -/

namespace Call

open Exchange (Progress)

/-- What a call comes to that has come so far. -/
def verdict (now : Nat) (c : Call) : Progress → Fate
  | .answered response => .ended (conclude c.errand response)
  | .failed cause => .ended (.error (.exchange cause))
  | .blocked | .sent | .waiting =>
    if c.deadline ≤ now then .ended (.error .timeout) else .underWay

/-- A look at a call that shows this at first: one look at its exchange, or two if its frame has just
been sent. -/
def looks (id : Nat) : Progress → List Exchange.Act
  | .sent => [.poll id, .poll id]
  | _ => [.poll id]

/-- What a look at a call does to its exchange. The call is given up if it is under way still when
its deadline has come. -/
def lookActs (now deadline id : Nat) (x : Exchange) : List Exchange.Act :=
  if (look id x).1.isOver = false ∧ deadline ≤ now then looks id (x.poll id).1 ++ [.drop id]
  else looks id (x.poll id).1

/-- What the start of a call does to its exchange. -/
def beginActs (now deadline : Nat) (errand : Errand) (x : Exchange) : List Exchange.Act :=
  .start errand.method errand.params ::
    match startOn errand x with
    | (none, _) => []
    | (some id, x) => lookActs now deadline id x

theorem mem_lookActs {now deadline id : Nat} {x : Exchange} {act : Exchange.Act}
    (h : act ∈ lookActs now deadline id x) : act = .poll id ∨ act = .drop id := by
  have hlooks : ∀ progress, act ∈ looks id progress → act = .poll id := by
    intro progress hact
    cases progress <;> simpa [looks] using hact
  simp only [lookActs] at h
  split at h
  · rcases List.mem_append.mp h with h | h
    · exact .inl (hlooks _ h)
    · exact .inr (List.mem_singleton.mp h)
  · exact .inl (hlooks _ h)

theorem mem_beginActs {now deadline : Nat} {errand : Errand} {x : Exchange} {act : Exchange.Act}
    (h : act ∈ beginActs now deadline errand x) :
    act = .start errand.method errand.params ∨ ∃ id, act = .poll id ∨ act = .drop id := by
  rcases List.mem_cons.mp h with h | h
  · exact .inl h
  · split at h
    · cases h
    · next id _ _ => exact .inr ⟨id, mem_lookActs h⟩

theorem look_snd (id : Nat) (x : Exchange) :
    (look id x).2 = x.run (looks id (x.poll id).1) := by
  unfold look
  cases h : x.poll id with
  | mk progress y =>
    have hy : x.step (.poll id) = y := congrArg Prod.snd h
    cases progress with
    | sent =>
      -- the frame has just been sent, so the look goes on to ask for the answer
      show (y.poll id).2 = (x.step (.poll id)).step (.poll id)
      rw [hy]
      rfl
    | _ => exact hy.symm

theorem run_lookActs (now deadline id : Nat) (x : Exchange) :
    x.run (lookActs now deadline id x) =
      if (look id x).1.isOver = false ∧ deadline ≤ now then (look id x).2.drop id
      else (look id x).2 := by
  rw [look_snd]
  simp only [lookActs]
  split
  · rw [Exchange.run_append]
    rfl
  · rfl

theorem judge_eq (now : Nat) (c : Call) (progress : Progress) (r : Roster) :
    c.judge now progress r =
      (c.verdict now progress,
        if progress.isOver = false ∧ c.deadline ≤ now then
          r.modify c.session (Exchange.drop c.id) else r) := by
  by_cases h : c.deadline ≤ now <;> cases progress <;> simp [judge, verdict, Progress.isOver, h]

/-- A look at a call, told in acts of its exchange. Without a session there is nothing to look at. -/
theorem poll_eq (now : Nat) (c : Call) (r : Roster) :
    c.poll now r =
      (c.verdict now ((r.sessions.get? c.session).elim (.failed .closed) fun x => (look c.id x).1),
        r.modify c.session fun x => x.run (lookActs now c.deadline c.id x)) := by
  unfold poll
  cases h : r.sessions.get? c.session with
  | none =>
    rw [Roster.onSession_of_none _ _ h, Roster.modify_of_none _ h]
    rfl
  | some x =>
    rw [Roster.onSession_of_some _ _ h, Roster.modify_of_some _ h, run_lookActs]
    simp only [judge_eq, Option.elim_some]
    split
    · -- the call is given up on the exchange that the look has just put back
      rw [Roster.modify_of_some _ (Table.get?_set_self _ _ _)]
      simp only [Table.set_set]
    · rfl

/-- What the start of a call does to a roster, told in acts of the exchange. -/
theorem beginOn_snd (now deadline session : Nat) (errand : Errand) (r : Roster) :
    (beginOn now deadline session errand r).2 =
      r.modify session fun x => x.run (beginActs now deadline errand x) := by
  cases h : r.sessions.get? session with
  | none => rw [beginOn, Roster.onSession_of_none _ _ h, Roster.modify_of_none _ h]
  | some x =>
    rw [beginOn, Roster.onSession_of_some _ _ h, Roster.modify_of_some _ h]
    have hx : x.step (.start errand.method errand.params) = (startOn errand x).2 := rfl
    cases hstart : startOn errand x with
    | mk id y =>
      rw [hstart] at hx
      cases id with
      | none => simp only [beginActs, hstart, Exchange.run, List.foldl_cons, List.foldl_nil, hx]
      | some id =>
        -- the first look at the call is one at the roster with the exchange as it is now
        have hrun : x.run (beginActs now deadline errand x) =
            y.run (lookActs now deadline id y) := by
          simp only [beginActs, hstart, Exchange.run, List.foldl_cons, hx]
        have hpoll := congrArg Prod.snd (poll_eq now ⟨session, id, errand, deadline⟩
          { r with sessions := r.sessions.set session y })
        rw [Roster.modify_of_some _ (Table.get?_set_self _ _ _)] at hpoll
        simp only [Table.set_set] at hpoll
        rw [hrun, ← hpoll]
        simp only
        split <;> next h => rw [h]

/-- What the start of a call on a session shows: that the session takes no calls, or what a first
look at the call comes to. -/
theorem beginOn_cases (now deadline session : Nat) (errand : Errand) (r : Roster) :
    (beginOn now deadline session errand r).1 = .inl (.error (.exchange .closed)) ∨
    ∃ x id y, r.sessions.get? session = some x ∧ startOn errand x = (some id, y) ∧
      (beginOn now deadline session errand r).1 =
        match (Call.mk session id errand deadline).verdict now (look id y).1 with
        | .ended outcome => .inl outcome
        | .underWay => .inr ⟨session, id, errand, deadline⟩ := by
  cases hx : r.sessions.get? session with
  | none =>
    rw [beginOn, Roster.onSession_of_none _ _ hx]
    exact .inl rfl
  | some x =>
    rw [beginOn, Roster.onSession_of_some _ _ hx]
    cases hstart : startOn errand x with
    | mk id y =>
      cases id with
      | none => exact .inl rfl
      | some id =>
        refine .inr ⟨x, id, y, rfl, hstart, ?_⟩
        have hpoll := poll_eq now ⟨session, id, errand, deadline⟩
          { r with sessions := r.sessions.set session y }
        rw [Table.get?_set_self, Option.elim_some] at hpoll
        simp only [hpoll]
        cases (Call.mk session id errand deadline).verdict now (look id y).1 <;> rfl

/-- A call that is under way after its start was given an id on its session. -/
theorem beginOn_inr {now deadline session : Nat} {errand : Errand} {r : Roster} {c : Call}
    (h : (beginOn now deadline session errand r).1 = .inr c) :
    ∃ x y, r.sessions.get? session = some x ∧ startOn errand x = (some c.id, y) ∧
      c = ⟨session, c.id, errand, deadline⟩ := by
  rcases beginOn_cases now deadline session errand r with he | ⟨x, id, y, hx, hstart, he⟩
  · rw [he] at h
    cases h
  · rw [he] at h
    split at h <;> cases h
    exact ⟨x, y, hx, hstart, rfl⟩

end Call

/-! ### Runs -/

namespace Roster

/-- What can be done with a roster. -/
inductive Act where
  /-- A launcher attaches itself, with so many places in its outbox. -/
  | register (capacity : Nat)
  /-- A launcher is detached. -/
  | remove (session : Nat)
  /-- A call is begun on the session that has been attached longest. -/
  | route (now deadline : Nat) (errand : Errand)
  /-- A call is begun on a session. -/
  | call (session now deadline : Nat) (errand : Errand)
  /-- A call is looked at, which may end it, by its deadline too. -/
  | look (now : Nat) (c : Call)
  /-- A call is given up. -/
  | cancel (c : Call)
  /-- A text comes from a launcher. -/
  | inbound (session : Nat) (text : String)
  /-- The oldest frame for a launcher is written. -/
  | take (session : Nat)
  /-- Nobody writes frames for a launcher any more. -/
  | shut (session : Nat)

/-- The roster after an act. -/
def step (r : Roster) : Act → Roster
  | .register capacity => (r.register capacity).2
  | .remove session => r.remove session
  | .route now deadline errand => (Call.begin now deadline errand r).2
  | .call session now deadline errand => (Call.beginOn now deadline session errand r).2
  | .look now c => (c.poll now r).2
  | .cancel c => c.cancel r
  | .inbound session text => r.modify session (Exchange.receive text)
  | .take session => r.modify session fun x => x.step .take
  | .shut session => r.modify session Exchange.shutOutbox

/-- The roster after some acts. -/
def run (acts : List Act) (r : Roster) : Roster := acts.foldl step r

@[simp] theorem run_nil (r : Roster) : r.run [] = r := rfl

theorem run_cons (act : Act) (rest : List Act) (r : Roster) :
    r.run (act :: rest) = (r.step act).run rest := rfl

theorem run_append (early late : List Act) (r : Roster) :
    r.run (early ++ late) = (r.run early).run late :=
  List.foldl_append

/-- The session that an act names. -/
def Act.session? : Act → Option Nat
  | .register _ | .route .. => none
  | .remove s | .call s .. | .inbound s _ | .take s | .shut s => some s
  | .look _ c | .cancel c => some c.session

/-- What an act comes to on the exchange of the session that it reaches. -/
def Act.deeds (x : Exchange) : Act → List Exchange.Act
  | .register _ => []
  | .remove _ => [.close]
  | .route now deadline errand | .call _ now deadline errand =>
    Call.beginActs now deadline errand x
  | .look now c => Call.lookActs now c.deadline c.id x
  | .cancel c => [.drop c.id]
  | .inbound _ text => [.receive text]
  | .take _ => [.take]
  | .shut _ => [.shut]

theorem Act.eq_remove_of_close {act : Act} {x : Exchange} (h : .close ∈ act.deeds x) :
    ∃ s, act = .remove s := by
  cases act with
  | remove s => exact ⟨s, rfl⟩
  | route now deadline errand | call s now deadline errand =>
    rcases Call.mem_beginActs h with h | ⟨id, h | h⟩ <;> cases h
  | look now c =>
    rcases Call.mem_lookActs h with h | h <;> cases h
  | register | cancel | inbound | take | shut => simp [Act.deeds] at h

/-- Only a text from the launcher of a session is received there. -/
theorem Act.eq_inbound_of_receive {act : Act} {x : Exchange} {text : String}
    (h : .receive text ∈ act.deeds x) : ∃ s, act = .inbound s text := by
  cases act with
  | inbound s text' =>
    obtain rfl : text = text' := by simpa [Act.deeds] using h
    exact ⟨s, rfl⟩
  | route now deadline errand | call s now deadline errand =>
    rcases Call.mem_beginActs h with h | ⟨id, h | h⟩ <;> cases h
  | look now c =>
    rcases Call.mem_lookActs h with h | h <;> cases h
  | register | remove | cancel | take | shut => simp [Act.deeds] at h

/-- The session that an act reaches: the one it names, unless that is to be removed and not there,
and the first one if the act is a routed call. -/
def target (r : Roster) : Act → Option Nat
  | .route .. => r.first
  | .remove s => if s ∈ r.attached then some s else none
  | act => act.session?

/-- The sessions that an act leaves attached. -/
def Act.spared (attached : List Nat) : Act → List Nat
  | .remove s => attached.filter (· != s)
  | _ => attached

section
variable (r : Roster)

/-- What a step can do: add a session, do nothing, or change one session by its deeds there. -/
theorem step_cases (act : Act) :
    (∃ capacity, act = .register capacity ∧ r.step act = (r.register capacity).2) ∨
    ((∀ capacity, act ≠ .register capacity) ∧ r.target act = none ∧ r.step act = r) ∨
    (∃ s, (∀ capacity, act ≠ .register capacity) ∧ r.target act = some s ∧ r.step act =
      { r with attached := act.spared r.attached }.modify s fun x => x.run (act.deeds x)) := by
  cases act with
  | register capacity => exact .inl ⟨capacity, rfl, rfl⟩
  | remove s =>
    right
    by_cases hs : s ∈ r.attached
    · -- whoever removes a session closes its exchange, and nothing else
      refine .inr ⟨s, by simp, by simp [target, hs], ?_⟩
      show r.remove s = _
      rw [remove, if_pos (List.contains_iff_mem.mpr hs)]
      rfl
    · refine .inl ⟨by simp, by simp [target, hs], ?_⟩
      show r.remove s = _
      rw [remove, if_neg (by rwa [List.contains_iff_mem])]
  | route now deadline errand =>
    right
    cases hs : r.first with
    | none =>
      refine .inl ⟨by simp, hs, ?_⟩
      show (Call.begin now deadline errand r).2 = r
      rw [Call.begin, hs]
    | some s =>
      refine .inr ⟨s, by simp, hs, ?_⟩
      show (Call.begin now deadline errand r).2 = _
      rw [Call.begin, hs]
      exact Call.beginOn_snd now deadline s errand r
  | call s now deadline errand =>
    exact .inr (.inr ⟨s, by simp, rfl, Call.beginOn_snd now deadline s errand r⟩)
  | look now c =>
    exact .inr (.inr ⟨c.session, by simp, rfl, congrArg Prod.snd (Call.poll_eq now c r)⟩)
  | cancel c => exact .inr (.inr ⟨c.session, by simp, rfl, rfl⟩)
  | inbound s text => exact .inr (.inr ⟨s, by simp, rfl, rfl⟩)
  | take s => exact .inr (.inr ⟨s, by simp, rfl, rfl⟩)
  | shut s => exact .inr (.inr ⟨s, by simp, rfl, rfl⟩)

/-- An act changes the session that it reaches, by its deeds there, and no other. -/
theorem get?_step {act : Act} (hact : ∀ capacity, act ≠ .register capacity) (t : Nat) :
    (r.step act).sessions.get? t =
      if r.target act = some t then (r.sessions.get? t).map fun x => x.run (act.deeds x)
      else r.sessions.get? t := by
  rcases r.step_cases act with ⟨capacity, rfl, -⟩ | ⟨-, htarget, he⟩ | ⟨s, -, htarget, he⟩
  · exact absurd rfl (hact capacity)
  · rw [he, htarget, if_neg (by simp)]
  · rw [he, get?_modify, htarget]
    simp only [Option.some.injEq, eq_comm]

/-- A launcher that attaches itself gets a session of its own. -/
theorem get?_register (capacity t : Nat) :
    (r.step (.register capacity)).sessions.get? t =
      if t = r.count + 1 then some (Exchange.ofCapacity capacity (.listening []))
      else r.sessions.get? t := by
  show (Table.set _ _ _).get? t = _
  split
  · next h => rw [h, Table.get?_set_self]
  · next h => rw [Table.get?_set_other _ _ h]

theorem count_step {act : Act} (hact : ∀ capacity, act ≠ .register capacity) :
    (r.step act).count = r.count := by
  rcases r.step_cases act with ⟨capacity, rfl, -⟩ | ⟨-, -, he⟩ | ⟨s, -, -, he⟩
  · exact absurd rfl (hact capacity)
  · rw [he]
  · rw [he, count_modify]

theorem count_le_step (act : Act) : r.count ≤ (r.step act).count := by
  by_cases hact : ∃ capacity, act = .register capacity
  · obtain ⟨capacity, rfl⟩ := hact
    exact Nat.le_succ _
  · exact Nat.le_of_eq (r.count_step fun capacity h => hact ⟨capacity, h⟩).symm

theorem mem_spared {act : Act} {attached : List Nat} {t : Nat} :
    t ∈ act.spared attached ↔ t ∈ attached ∧ act ≠ .remove t := by
  cases act with
  | remove s =>
    simp only [Act.spared, List.mem_filter, bne_iff_ne, ne_eq, Act.remove.injEq]
    exact and_congr_right fun _ => not_congr eq_comm
  | _ => simp [Act.spared]

theorem Act.spared_sublist (act : Act) (attached : List Nat) :
    (act.spared attached).Sublist attached := by
  cases act with
  | remove s => exact List.filter_sublist
  | _ => exact List.Sublist.refl _

theorem mem_attached_step (act : Act) (t : Nat) :
    t ∈ (r.step act).attached ↔
      (t ∈ r.attached ∧ act ≠ .remove t) ∨
        ∃ capacity, act = .register capacity ∧ t = r.count + 1 := by
  rcases r.step_cases act with ⟨capacity, rfl, he⟩ | ⟨hnew, htarget, he⟩ | ⟨s, hnew, -, he⟩ <;>
    rw [he]
  · simp [register]
  · -- the act reaches nothing, so it is not the removal of a session that is attached
    have hold : t ∈ r.attached → act ≠ .remove t := by
      rintro ht rfl
      simp [target, ht] at htarget
    simp only [hnew, false_and, exists_false, or_false]
    exact ⟨fun ht => ⟨ht, hold ht⟩, And.left⟩
  · rw [attached_modify, mem_spared]
    simp only [hnew, false_and, exists_false, or_false]

end

/-- The sessions attached are in the order of their numbers, exist and are open, and no session that
exists has a number yet to be given. -/
structure Sound (r : Roster) : Prop where
  rising : r.attached.Pairwise (· < ·)
  known : ∀ t ∈ r.attached, ∃ x, r.sessions.get? t = some x ∧ x.closed = false
  counted : ∀ t x, r.sessions.get? t = some x → t ≤ r.count
  sound : ∀ t x, r.sessions.get? t = some x → x.Sound

theorem sound_empty : Sound empty where
  rising := .nil
  known := fun _ ht => nomatch ht
  counted := fun _ _ hx => nomatch hx
  sound := fun _ _ hx => nomatch hx

section
variable {r : Roster}

theorem Sound.le_count (h : Sound r) {t : Nat} (ht : t ∈ r.attached) : t ≤ r.count := by
  obtain ⟨x, hx, -⟩ := h.known t ht
  exact h.counted t x hx

theorem sound_register (h : Sound r) (capacity : Nat) :
    Sound (r.step (.register capacity)) := by
  have hget : ∀ t x, (r.step (.register capacity)).sessions.get? t = some x →
      (t = r.count + 1 ∧ x = Exchange.ofCapacity capacity (.listening [])) ∨
        r.sessions.get? t = some x := by
    intro t x hx
    rw [get?_register] at hx
    split at hx
    · next ht => exact .inl ⟨ht, (Option.some.inj hx).symm⟩
    · exact .inr hx
  refine ⟨?_, ?_, ?_, ?_⟩
  · -- the new number is the largest
    refine List.pairwise_append.mpr ⟨h.rising, List.pairwise_singleton _ _, ?_⟩
    intro t ht new hnew
    rw [List.mem_singleton.mp hnew]
    have := h.le_count ht
    omega
  · intro t ht
    rw [get?_register]
    split
    · exact ⟨_, rfl, rfl⟩
    · next hnew =>
      have hold : t ∈ r.attached := by simpa [step, register, hnew] using ht
      exact h.known t hold
  · intro t x hx
    show t ≤ r.count + 1
    rcases hget t x hx with ⟨ht, -⟩ | hold
    · omega
    · have := h.counted t x hold
      omega
  · intro t x hx
    rcases hget t x hx with ⟨-, rfl⟩ | hold
    · exact Exchange.sound_ofCapacity _ _
    · exact h.sound t x hold

theorem sound_step (h : Sound r) (act : Act) : Sound (r.step act) := by
  rcases r.step_cases act with ⟨capacity, rfl, -⟩ | ⟨-, -, he⟩ | ⟨s, -, htarget, he⟩
  · exact sound_register h capacity
  · rw [he]
    exact h
  · have hsub := Act.spared_sublist act r.attached
    -- a session after the step is one before it, run through the deeds or left alone
    have hget : ∀ t y, (r.step act).sessions.get? t = some y →
        ∃ x, r.sessions.get? t = some x ∧ (y = x ∨ y = x.run (act.deeds x)) := by
      intro t y hy
      rw [he, get?_modify] at hy
      split at hy
      · obtain ⟨x, hx, rfl⟩ := Option.map_eq_some_iff.mp hy
        exact ⟨x, hx, .inr rfl⟩
      · exact ⟨y, hy, .inl rfl⟩
    refine ⟨?_, ?_, ?_, ?_⟩
    · rw [he, attached_modify]
      exact h.rising.sublist hsub
    · intro t ht
      rw [he, attached_modify, mem_spared] at ht
      obtain ⟨x, hx, hopen⟩ := h.known t ht.1
      rw [he, get?_modify]
      split
      · next hts =>
        refine ⟨_, Option.map_eq_some_iff.mpr ⟨x, hx, rfl⟩, ?_⟩
        -- only its removal closes a session, and this one is not removed
        rw [← Bool.not_eq_true, Exchange.closed_run, hopen]
        rintro (hno | hclose)
        · cases hno
        · obtain ⟨u, rfl⟩ := Act.eq_remove_of_close hclose
          have hu : u = s := by
            simp only [target] at htarget
            split at htarget
            · exact Option.some.inj htarget
            · cases htarget
          exact ht.2 (by rw [hu, hts])
      · exact ⟨x, hx, hopen⟩
    · intro t y hy
      obtain ⟨x, hx, -⟩ := hget t y hy
      exact Nat.le_trans (h.counted t x hx) (r.count_le_step act)
    · intro t y hy
      obtain ⟨x, hx, rfl | rfl⟩ := hget t y hy
      · exact h.sound t y hx
      · exact Exchange.sound_run (h.sound t x hx) _

theorem sound_run (h : Sound r) (acts : List Act) : Sound (r.run acts) := by
  induction acts generalizing r with
  | nil => exact h
  | cons act rest ih => exact ih (sound_step h act)

/-- The session that has been attached longest has the least number. -/
theorem first_eq_some_iff (h : Sound r) {s : Nat} :
    r.first = some s ↔ s ∈ r.attached ∧ ∀ t ∈ r.attached, s ≤ t := by
  have hrising := h.rising
  rw [first]
  cases hattached : r.attached with
  | nil => simp
  | cons a rest =>
    rw [hattached, List.pairwise_cons] at hrising
    rw [List.head?_cons, Option.some.injEq, List.forall_mem_cons]
    constructor
    · rintro rfl
      exact ⟨List.mem_cons_self, Nat.le_refl _, fun t ht => Nat.le_of_lt (hrising.1 t ht)⟩
    · rintro ⟨hmem, hle, -⟩
      rcases List.mem_cons.mp hmem with rfl | hmem
      · rfl
      · exact absurd (hrising.1 s hmem) (by omega)

end

/-! ### Who is attached -/

/-- The numbers that sessions are given, in order. -/
def given : List Act → Roster → List Nat
  | [], _ => []
  | .register capacity :: rest, r =>
    (r.register capacity).1 :: given rest (r.step (.register capacity))
  | act :: rest, r => given rest (r.step act)

/-- A session was registered among some acts, and has not been removed since. -/
def Present (t : Nat) (acts : List Act) (r : Roster) : Prop :=
  ∃ before capacity after, acts = before ++ .register capacity :: after ∧
    ((r.run before).register capacity).1 = t ∧ .remove t ∉ after

theorem lt_of_mem_given (acts : List Act) (r : Roster) : ∀ t ∈ given acts r, r.count < t := by
  induction acts generalizing r with
  | nil => exact fun t ht => nomatch ht
  | cons act rest ih =>
    intro t ht
    have hlater : t ∈ given rest (r.step act) → r.count < t := fun h =>
      Nat.lt_of_le_of_lt (r.count_le_step act) (ih (r.step act) t h)
    cases act with
    | register capacity =>
      rcases List.mem_cons.mp ht with rfl | ht
      · exact Nat.lt_succ_self _
      · exact hlater ht
    | _ => exact hlater ht

/-- Numbers rise from session to session. -/
theorem given_pairwise (acts : List Act) (r : Roster) : (given acts r).Pairwise (· < ·) := by
  induction acts generalizing r with
  | nil => exact .nil
  | cons act rest ih =>
    cases act with
    | register capacity =>
      exact .cons (fun t ht => lt_of_mem_given rest _ t ht) (ih _)
    | _ => exact ih _

theorem present_append_singleton {t : Nat} {acts : List Act} {act : Act} {r : Roster} :
    Present t (acts ++ [act]) r ↔ (Present t acts r ∧ act ≠ .remove t) ∨
      ∃ capacity, act = .register capacity ∧ t = (r.run acts).count + 1 := by
  constructor
  · rintro ⟨before, capacity, after, hacts, hgiven, hkept⟩
    -- the registration is the last act itself, or the last act comes after it
    rcases List.eq_nil_or_concat after with rfl | ⟨after, last, rfl⟩
    · obtain ⟨rfl, hlast⟩ := List.append_inj' hacts rfl
      exact .inr ⟨capacity, List.singleton_inj.mp hlast, hgiven.symm⟩
    · rw [List.concat_eq_append] at hacts hkept
      rw [← List.cons_append, ← List.append_assoc] at hacts
      obtain ⟨rfl, hlast⟩ := List.append_inj' hacts rfl
      obtain rfl := List.singleton_inj.mp hlast
      rw [List.mem_append, not_or] at hkept
      refine .inl ⟨⟨before, capacity, after, rfl, hgiven, hkept.1⟩, ?_⟩
      rintro rfl
      exact hkept.2 List.mem_cons_self
  · rintro (⟨⟨before, capacity, after, rfl, hgiven, hkept⟩, hact⟩ | ⟨capacity, rfl, rfl⟩)
    · refine ⟨before, capacity, after ++ [act], by simp, hgiven, ?_⟩
      rw [List.mem_append, List.mem_singleton, not_or]
      exact ⟨hkept, hact.symm⟩
    · exact ⟨acts, capacity, [], rfl, rfl, List.not_mem_nil⟩

/-- Who is attached can be read off the acts. -/
theorem mem_attached_run (acts : List Act) (t : Nat) :
    t ∈ (empty.run acts).attached ↔ Present t acts empty := by
  -- from the end, because what is said of a session is said of the acts after its registration
  induction acts using List.reverseRecOn with
  | nil =>
    constructor
    · intro ht
      cases ht
    · rintro ⟨before, capacity, after, h, -⟩
      simp at h
  | append_singleton acts act ih =>
    rw [present_append_singleton, run_append]
    show t ∈ ((empty.run acts).step act).attached ↔ _
    rw [mem_attached_step, ih]

/-! ### What happens to a session -/

/-- What some acts come to on the exchange of a session. -/
def deeds (t : Nat) : List Act → Roster → List Exchange.Act
  | [], _ => []
  | act :: rest, r =>
    (if r.target act = some t then ((r.sessions.get? t).map fun x => act.deeds x).getD [] else []) ++
      deeds t rest (r.step act)

/-- A session is what its own deeds have made of it. -/
theorem get?_run {r : Roster} (h : Sound r) (acts : List Act) {t : Nat} {x : Exchange}
    (hx : r.sessions.get? t = some x) :
    (r.run acts).sessions.get? t = some (x.run (deeds t acts r)) := by
  induction acts generalizing r x with
  | nil => exact hx
  | cons act rest ih =>
    by_cases htarget : r.target act = some t
    · have hact : ∀ capacity, act ≠ .register capacity := by
        rintro capacity rfl
        cases htarget
      have hstep := r.get?_step hact t
      rw [hx, if_pos htarget] at hstep
      rw [run_cons, ih (sound_step h act) hstep, deeds, if_pos htarget, hx, Exchange.run_append]
      rfl
    · -- an act that reaches another session, or a new session with a number of its own
      have hstep : (r.step act).sessions.get? t = some x := by
        by_cases hact : ∃ capacity, act = .register capacity
        · obtain ⟨capacity, rfl⟩ := hact
          have := h.counted t x hx
          rw [get?_register, if_neg (by omega), hx]
        · rw [r.get?_step (fun capacity h => hact ⟨capacity, h⟩) t, if_neg htarget, hx]
      rw [run_cons, ih (sound_step h act) hstep, deeds, if_neg htarget, List.nil_append]

end Roster

end NodeStack.Launcher
