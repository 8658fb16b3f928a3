import NodeStack.Exchange.Calls

/-!
# `NodeStack.Proofs.Exchange.Calls`: what an act does to a call

`Exchange.Act` lists what can be done with an exchange, and `Exchange.run` folds acts over one. A
call is known by its id, and an exchange says two things of it: what is kept under its id in
`calls`, and whether it has a slot.

* `Agrees`: two exchanges say the same of a call. `agrees_poll`, `agrees_drop`, `agrees_answer` and
  `agrees_start`: an act on one call leaves the others alone.
* `StandsAt`: a call is under way and has been told a reply, or still awaits one and then has a
  slot. `Absent`: nothing is kept under an id, because no call has it yet or its call is over.
* `hear` and `told`: what an act, and what some acts, tell a call that is not given up.
* `standsAt_step`: an act brings a call where `hear` says, or ends it. `absent_step`: only a start
  brings a call where nothing was kept.
* `Sound`: nothing is kept under ids yet to be given, and a slot belongs to a call that awaits its
  reply. `sound_run`: every run keeps it.
-/

set_option autoImplicit false

namespace NodeStack.Exchange

/-! ### Runs -/

/-- What can be done with an exchange. -/
inductive Act where
  /-- A call is begun. -/
  | start (method : String) (params : Json)
  /-- A call is looked at, which lets it go on. -/
  | poll (id : Nat)
  /-- A call is given up. -/
  | drop (id : Nat)
  /-- A text comes from the other side. -/
  | receive (text : String)
  /-- The oldest frame is taken from the outbox. -/
  | take
  /-- Nobody takes frames any more. -/
  | shut
  /-- The exchange is closed. -/
  | close

/-- The exchange after an act. -/
def step (x : Exchange) : Act → Exchange
  | .start method params => (x.start method params).2.2
  | .poll id => (x.poll id).2
  | .drop id => x.drop id
  | .receive text => x.receive text
  | .take => { x with outbox := x.outbox.take.2 }
  | .shut => x.shutOutbox
  | .close => x.close

/-- The exchange after some acts. -/
def run (acts : List Act) (x : Exchange) : Exchange := acts.foldl step x

theorem run_append (early late : List Act) (x : Exchange) :
    x.run (early ++ late) = (x.run early).run late :=
  List.foldl_append

/-- Whether a look shows that the call is over. -/
def Progress.isOver : Progress → Bool
  | .answered _ | .failed _ => true
  | .blocked | .sent | .waiting => false

/-- No look at a call has shown yet that it is over. -/
def Ongoing (id : Nat) : List Act → Exchange → Prop
  | [], _ => True
  | act :: rest, x =>
    (act = .poll id → (x.poll id).1.isOver = false) ∧ Ongoing id rest (x.step act)

/-- The response to a call that a text is, if it is one. -/
def answerTo? (id : Nat) (text : String) : Option Response :=
  match Frame.ofText? text with
  | some (.response r) => if r.id = id then some r else none
  | _ => none

theorem answerTo?_eq_some {id : Nat} {text : String} {r : Response} :
    answerTo? id text = some r ↔ Frame.ofText? text = some (.response r) ∧ r.id = id := by
  unfold answerTo?
  split
  · next r' h =>
    rw [h, Option.ite_none_right_eq_some, Option.some.injEq, Option.some.injEq,
      Frame.response.injEq]
    constructor
    · rintro ⟨hid, rfl⟩
      exact ⟨rfl, hid⟩
    · rintro ⟨rfl, hid⟩
      exact ⟨hid, rfl⟩
  · next h =>
    exact ⟨(nomatch ·), fun ⟨he, _⟩ => absurd he (h r)⟩

/-- A text answers one call at most. -/
theorem answerTo?_unique {i j : Nat} {text : String} {r s : Response}
    (hi : answerTo? i text = some r) (hj : answerTo? j text = some s) : i = j := by
  obtain ⟨hframe, rfl⟩ := answerTo?_eq_some.mp hi
  obtain ⟨hframe', rfl⟩ := answerTo?_eq_some.mp hj
  rw [hframe] at hframe'
  cases hframe'
  rfl

/-! ### The cases of each operation -/

section
variable (x : Exchange) (id : Nat)

theorem trySend_cases (call : Call) :
    (x.outbox.taken = false ∧ x.trySend id call = (.failed .closed, x.forget id)) ∨
    (x.outbox.taken = true ∧ x.outbox.hasPlace id = true ∧ x.trySend id call =
      (.sent, { x with
        outbox := x.outbox.put id call.frame
        calls := x.calls.set id { call with sent := true } })) ∨
    (x.outbox.taken = true ∧ x.outbox.hasPlace id = false ∧
      x.trySend id call = (.blocked, x)) := by
  unfold trySend
  cases ht : x.outbox.taken with
  | false => exact Or.inl ⟨rfl, rfl⟩
  | true =>
    cases hp : x.outbox.hasPlace id with
    | true => exact Or.inr (Or.inl ⟨rfl, rfl, rfl⟩)
    | false => exact Or.inr (Or.inr ⟨rfl, rfl, rfl⟩)

/-- A look at a call whose frame has been put into the outbox: nothing yet, or the end. -/
theorem pollSent_cases (call : Call) :
    (call.reply = .awaited ∧ x.pollSent id call = (.waiting, x)) ∨
    (∃ r, call.reply = .given r ∧ x.pollSent id call = (.answered r, x.forget id)) ∨
    (call.reply = .released ∧ x.pollSent id call = (.failed .closed, x.forget id)) := by
  unfold pollSent
  cases hr : call.reply with
  | awaited => exact Or.inl ⟨rfl, rfl⟩
  | given r => exact Or.inr (Or.inl ⟨r, rfl, rfl⟩)
  | released => exact Or.inr (Or.inr ⟨rfl, rfl⟩)

theorem poll_of_none (h : x.calls.get? id = none) : x.poll id = (.failed .closed, x) := by
  simp [poll, h]

theorem poll_of_some {call : Call} (h : x.calls.get? id = some call) :
    x.poll id = if call.sent then x.pollSent id call else x.trySend id call := by
  simp [poll, h]

/-- What a look at a call under way leaves of an exchange: all of it, all but the call, or a call
that has been sent. -/
theorem poll_cases {call : Call} (h : x.calls.get? id = some call) :
    ((x.poll id).1.isOver = false ∧ (x.poll id).2 = x) ∨
    ((x.poll id).1.isOver = true ∧ (x.poll id).2 = x.forget id) ∨
    ((x.poll id).1 = .sent ∧ (x.poll id).2 = { x with
      outbox := x.outbox.put id call.frame
      calls := x.calls.set id { call with sent := true } }) := by
  rw [x.poll_of_some id h]
  cases hs : call.sent with
  | true =>
    rw [if_pos rfl]
    rcases x.pollSent_cases id call with ⟨-, he⟩ | ⟨r, -, he⟩ | ⟨-, he⟩ <;> rw [he]
    · exact Or.inl ⟨rfl, rfl⟩
    · exact Or.inr (Or.inl ⟨rfl, rfl⟩)
    · exact Or.inr (Or.inl ⟨rfl, rfl⟩)
  | false =>
    rw [if_neg Bool.false_ne_true]
    rcases x.trySend_cases id call with ⟨-, he⟩ | ⟨-, -, he⟩ | ⟨-, -, he⟩ <;> rw [he]
    · exact Or.inr (Or.inl ⟨rfl, rfl⟩)
    · exact Or.inr (Or.inr ⟨rfl, rfl⟩)
    · exact Or.inl ⟨rfl, rfl⟩

/-- The exchange in which a call has just been given its id, and nothing else of it has happened. -/
def enlist (method : String) (params : Json) : Exchange :=
  { x with
    next := x.next + 1
    slots := x.slots ++ [x.next]
    outbox := if x.outbox.taken then x.outbox.enter x.next else x.outbox
    calls := x.calls.set x.next ⟨⟨x.next, method, params⟩, false, .awaited⟩ }

theorem start_of_closed (method : String) (params : Json) (h : x.closed = true) :
    x.start method params = (none, .failed .closed, x) := by
  simp [start, h]

theorem start_of_open (method : String) (params : Json) (h : x.closed = false) :
    x.start method params =
      (some x.next,
        (x.enlist method params).trySend x.next ⟨⟨x.next, method, params⟩, false, .awaited⟩) := by
  simp [start, h, enlist]

/-- A response changes nothing unless its id has a slot and a call. -/
theorem answer_cases (response : Response) :
    (x.answer response = x ∧
      (response.id ∉ x.slots ∨ x.calls.get? response.id = none)) ∨
    ∃ call, response.id ∈ x.slots ∧ x.calls.get? response.id = some call ∧
      x.answer response = { x with
        slots := x.slots.filter (· != response.id)
        calls := x.calls.set response.id { call with reply := .given response } } := by
  unfold answer
  by_cases hs : response.id ∈ x.slots
  · rw [if_pos (List.contains_iff_mem.mpr hs)]
    cases hc : x.calls.get? response.id with
    | none => exact Or.inl ⟨rfl, Or.inr rfl⟩
    | some call => exact Or.inr ⟨call, hs, rfl, rfl⟩
  · rw [if_neg (by rwa [List.contains_iff_mem])]
    exact Or.inl ⟨rfl, Or.inl hs⟩

end

/-! ### Other calls -/

/-- Two exchanges say the same of a call. -/
def Agrees (id : Nat) (x y : Exchange) : Prop :=
  y.calls.get? id = x.calls.get? id ∧ (id ∈ y.slots ↔ id ∈ x.slots)

theorem Agrees.refl (id : Nat) (x : Exchange) : Agrees id x x := ⟨rfl, Iff.rfl⟩

theorem Agrees.trans {id : Nat} {x y z : Exchange} (h₁ : Agrees id x y) (h₂ : Agrees id y z) :
    Agrees id x z :=
  ⟨h₂.1.trans h₁.1, h₂.2.trans h₁.2⟩

section
variable {x : Exchange} {id other : Nat}

theorem agrees_forget (h : id ≠ other) : Agrees id x (x.forget other) := by
  refine ⟨Table.get?_erase_other _ h, ?_⟩
  show id ∈ x.slots.filter (· != other) ↔ id ∈ x.slots
  simp [h]

theorem agrees_set {outbox : Outbox} {call : Call} (h : id ≠ other) :
    Agrees id x { x with outbox := outbox, calls := x.calls.set other call } :=
  ⟨Table.get?_set_other _ _ h, Iff.rfl⟩

theorem agrees_trySend (call : Call) (h : id ≠ other) : Agrees id x (x.trySend other call).2 := by
  rcases x.trySend_cases other call with ⟨-, he⟩ | ⟨-, -, he⟩ | ⟨-, -, he⟩ <;> rw [he]
  · exact agrees_forget h
  · exact agrees_set h
  · exact Agrees.refl id x

theorem agrees_poll (h : id ≠ other) : Agrees id x (x.poll other).2 := by
  cases hc : x.calls.get? other with
  | none =>
    rw [x.poll_of_none other hc]
    exact Agrees.refl id x
  | some call =>
    rcases x.poll_cases other hc with ⟨-, he⟩ | ⟨-, he⟩ | ⟨-, he⟩ <;> rw [he]
    · exact Agrees.refl id x
    · exact agrees_forget h
    · exact agrees_set h

theorem agrees_drop (h : id ≠ other) : Agrees id x (x.drop other) := by
  unfold drop
  split
  · exact Agrees.refl id x
  · dsimp only
    split
    · exact agrees_forget h
    · exact agrees_forget h

theorem agrees_answer (response : Response) (h : id ≠ response.id) :
    Agrees id x (x.answer response) := by
  rcases x.answer_cases response with ⟨he, -⟩ | ⟨call, -, -, he⟩ <;> rw [he]
  · exact Agrees.refl id x
  · refine ⟨Table.get?_set_other _ _ h, ?_⟩
    show id ∈ x.slots.filter (· != response.id) ↔ id ∈ x.slots
    simp [h]

/-- A text can only change the call that it answers. -/
theorem agrees_receive {text : String} (h : answerTo? id text = none) :
    Agrees id x (x.receive text) := by
  unfold receive
  split
  · exact Agrees.refl id x
  · next r hr =>
    refine agrees_answer r fun hid => ?_
    rw [answerTo?_eq_some.mpr ⟨hr, hid.symm⟩] at h
    cases h
  · exact Agrees.refl id x

theorem receive_of_answer {text : String} {r : Response} (h : answerTo? id text = some r) :
    x.receive text = x.answer r := by
  unfold receive
  rw [(answerTo?_eq_some.mp h).1]

/-- A response to a call without a slot changes nothing. -/
theorem receive_of_not_mem {text : String} {r : Response} (h : answerTo? id text = some r)
    (hs : id ∉ x.slots) : x.receive text = x := by
  obtain ⟨-, rfl⟩ := answerTo?_eq_some.mp h
  rw [receive_of_answer h]
  rcases x.answer_cases r with ⟨he, -⟩ | ⟨call, hm, -, -⟩
  · exact he
  · exact absurd hm hs

/-- What a text does to a call without a slot: nothing. -/
theorem agrees_receive_of_not_mem (text : String) (hs : id ∉ x.slots) :
    Agrees id x (x.receive text) := by
  cases h : answerTo? id text with
  | none => exact agrees_receive h
  | some r =>
    rw [receive_of_not_mem h hs]
    exact Agrees.refl id x

theorem agrees_enlist (method : String) (params : Json) (h : id ≠ x.next) :
    Agrees id x (x.enlist method params) := by
  refine ⟨Table.get?_set_other _ _ h, ?_⟩
  show id ∈ x.slots ++ [x.next] ↔ id ∈ x.slots
  simp [h]

theorem agrees_start (method : String) (params : Json) (h : id ≠ x.next) :
    Agrees id x (x.start method params).2.2 := by
  cases hc : x.closed with
  | true =>
    rw [x.start_of_closed method params hc]
    exact Agrees.refl id x
  | false =>
    rw [x.start_of_open method params hc]
    exact (agrees_enlist method params h).trans (agrees_trySend _ h)

end

/-! ### The next id -/

section
variable (x : Exchange)

@[simp] theorem next_forget (id : Nat) : (x.forget id).next = x.next := rfl

@[simp] theorem next_trySend (id : Nat) (call : Call) : (x.trySend id call).2.next = x.next := by
  rcases x.trySend_cases id call with ⟨-, he⟩ | ⟨-, -, he⟩ | ⟨-, -, he⟩ <;> rw [he]
  exact next_forget x id

@[simp] theorem next_poll (id : Nat) : (x.poll id).2.next = x.next := by
  cases hc : x.calls.get? id with
  | none => rw [x.poll_of_none id hc]
  | some call =>
    rcases x.poll_cases id hc with ⟨-, he⟩ | ⟨-, he⟩ | ⟨-, he⟩ <;> rw [he]
    exact next_forget x id

@[simp] theorem next_drop (id : Nat) : (x.drop id).next = x.next := by
  unfold drop
  split
  · rfl
  · dsimp only
    split <;> rfl

@[simp] theorem next_answer (response : Response) : (x.answer response).next = x.next := by
  rcases x.answer_cases response with ⟨he, -⟩ | ⟨call, -, -, he⟩ <;> rw [he]

@[simp] theorem next_receive (text : String) : (x.receive text).next = x.next := by
  unfold receive
  split
  · rfl
  · exact next_answer x _
  · rfl

theorem next_start (method : String) (params : Json) :
    (x.start method params).2.2.next = if x.closed then x.next else x.next + 1 := by
  cases hc : x.closed with
  | true => rw [x.start_of_closed method params hc, if_pos rfl]
  | false =>
    rw [x.start_of_open method params hc, if_neg Bool.false_ne_true]
    exact next_trySend _ _ _

/-- Ids are given in rising order. -/
theorem next_le_step (act : Act) : x.next ≤ (x.step act).next := by
  cases act with
  | start method params =>
    show x.next ≤ (x.start method params).2.2.next
    rw [next_start]
    split <;> omega
  | poll id => exact Nat.le_of_eq (next_poll x id).symm
  | drop id => exact Nat.le_of_eq (next_drop x id).symm
  | receive text => exact Nat.le_of_eq (next_receive x text).symm
  | take => exact Nat.le_refl _
  | shut => exact Nat.le_refl _
  | close => exact Nat.le_refl _

end

/-! ### Where a call stands -/

/-- A call is under way and has been told a reply; it has a slot as long as it awaits one. -/
def StandsAt (id : Nat) (reply : Reply) (x : Exchange) : Prop :=
  (∃ call, x.calls.get? id = some call ∧ call.reply = reply) ∧
    (id ∈ x.slots ↔ reply = .awaited)

/-- Nothing is kept under an id. -/
def Absent (id : Nat) (x : Exchange) : Prop := x.calls.get? id = none ∧ id ∉ x.slots

/-- Nothing is kept under ids yet to be given, and a slot belongs to a call that awaits its reply. -/
structure Sound (x : Exchange) : Prop where
  unborn : ∀ id, x.next ≤ id → Absent id x
  stands : ∀ id, Absent id x ∨ ∃ reply, StandsAt id reply x

/-- What an act tells a call that is not given up. Only a call that still awaits its reply listens. -/
def hear (id : Nat) (reply : Reply) (act : Act) : Reply :=
  match reply, act with
  | .awaited, .receive text =>
    match answerTo? id text with
    | some r => .given r
    | none => .awaited
  | .awaited, .close => .released
  | reply, _ => reply

/-- What some acts tell a call that is not given up. -/
def told (id : Nat) (reply : Reply) (acts : List Act) : Reply := acts.foldl (hear id) reply

section
variable {x y : Exchange} {id : Nat} {reply : Reply}

theorem StandsAt.of_agrees (h : StandsAt id reply x) (ha : Agrees id x y) :
    StandsAt id reply y := by
  obtain ⟨⟨call, hc, hr⟩, hs⟩ := h
  exact ⟨⟨call, ha.1.trans hc, hr⟩, ha.2.trans hs⟩

theorem Absent.of_agrees (h : Absent id x) (ha : Agrees id x y) : Absent id y :=
  ⟨ha.1.trans h.1, fun hs => h.2 (ha.2.mp hs)⟩

theorem absent_forget (id : Nat) (x : Exchange) : Absent id (x.forget id) := by
  refine ⟨Table.get?_erase_self _ _, ?_⟩
  show id ∉ x.slots.filter (· != id)
  simp

theorem absent_drop {call : Call} (h : x.calls.get? id = some call) : Absent id (x.drop id) := by
  unfold drop
  rw [h]
  dsimp only
  split
  · exact absent_forget id x
  · exact absent_forget id x

theorem hear_of_ne_awaited (h : reply ≠ .awaited) (act : Act) : hear id reply act = reply := by
  cases reply with
  | awaited => exact absurd rfl h
  | given r => cases act <;> rfl
  | released => cases act <;> rfl

/-- What closing does to each call: those with a slot are let go. -/
theorem get?_releaseCalls (slots : List Nat) (calls : Table Call) (id : Nat) :
    (slots.foldl releaseCall calls).get? id =
      if id ∈ slots then (calls.get? id).map fun call => { call with reply := .released }
      else calls.get? id := by
  induction slots generalizing calls with
  | nil => simp
  | cons other rest ih =>
    have hother : (releaseCall calls other).get? id =
        if id = other then (calls.get? id).map fun call => { call with reply := .released }
        else calls.get? id := by
      unfold releaseCall
      by_cases h : id = other
      · subst h
        cases hc : calls.get? id with
        | none => simp [hc]
        | some call => simp
      · cases calls.get? other with
        | none => simp [h]
        | some call => simp [h, Table.get?_set_other _ _ h]
    rw [List.foldl_cons, ih, hother]
    by_cases hr : id ∈ rest <;> by_cases h : id = other
    · subst h
      cases calls.get? id <;> simp [hr]
    · simp [hr, h]
    · subst h
      simp [hr]
    · simp [hr, h]

/-- An act that starts no call brings nothing where nothing was kept. -/
theorem absent_step (h : Absent id x) (act : Act)
    (hn : ∀ method params, act = .start method params → id ≠ x.next) : Absent id (x.step act) := by
  refine h.of_agrees ?_
  cases act with
  | start method params => exact agrees_start method params (hn method params rfl)
  | poll other =>
    show Agrees id x (x.poll other).2
    by_cases ho : id = other
    · rw [← ho, x.poll_of_none id h.1]
      exact Agrees.refl id x
    · exact agrees_poll ho
  | drop other =>
    show Agrees id x (x.drop other)
    by_cases ho : id = other
    · rw [← ho, show x.drop id = x by simp [Exchange.drop, h.1]]
      exact Agrees.refl id x
    · exact agrees_drop ho
  | receive text => exact agrees_receive_of_not_mem text h.2
  | take => exact Agrees.refl id x
  | shut => exact Agrees.refl id x
  | close =>
    refine ⟨?_, fun hs => absurd hs List.not_mem_nil, fun hs => absurd hs h.2⟩
    show (x.slots.foldl releaseCall x.calls).get? id = _
    rw [get?_releaseCalls, if_neg h.2]

theorem standsAt_close (h : StandsAt id reply x) : StandsAt id (hear id reply .close) x.close := by
  obtain ⟨⟨call, hc, hr⟩, hs⟩ := h
  have hget : x.close.calls.get? id = _ := get?_releaseCalls x.slots x.calls id
  by_cases ha : reply = .awaited
  · subst ha
    rw [if_pos (hs.mpr rfl), hc] at hget
    exact ⟨⟨_, hget, rfl⟩, fun hm => absurd hm List.not_mem_nil, fun he => nomatch he⟩
  · rw [if_neg fun hm => ha (hs.mp hm), hc] at hget
    rw [hear_of_ne_awaited ha]
    exact ⟨⟨call, hget, hr⟩, fun hm => absurd hm List.not_mem_nil, fun he => absurd he ha⟩

theorem standsAt_receive (h : StandsAt id reply x) (text : String) :
    StandsAt id (hear id reply (.receive text)) (x.receive text) := by
  by_cases ha : reply = .awaited
  · subst ha
    cases ht : answerTo? id text with
    | none =>
      rw [show hear id .awaited (.receive text) = .awaited by simp [hear, ht]]
      exact h.of_agrees (agrees_receive ht)
    | some r =>
      rw [show hear id .awaited (.receive text) = .given r by simp [hear, ht],
        receive_of_answer ht]
      obtain ⟨⟨call, hc, -⟩, hs⟩ := h
      obtain ⟨-, rfl⟩ := answerTo?_eq_some.mp ht
      rcases x.answer_cases r with ⟨-, hno | hno⟩ | ⟨call', -, -, he⟩
      · exact absurd (hs.mpr rfl) hno
      · rw [hc] at hno
        cases hno
      · rw [he]
        refine ⟨⟨_, Table.get?_set_self _ _ _, rfl⟩, fun hm => ?_, fun he => nomatch he⟩
        simp at hm
  · rw [hear_of_ne_awaited ha]
    exact h.of_agrees (agrees_receive_of_not_mem text fun hm => ha (h.2.mp hm))

theorem standsAt_poll (h : StandsAt id reply x) :
    ((x.poll id).1.isOver = true ∧ Absent id (x.poll id).2) ∨
    ((x.poll id).1.isOver = false ∧ StandsAt id reply (x.poll id).2) := by
  obtain ⟨⟨call, hc, hr⟩, hs⟩ := h
  rcases x.poll_cases id hc with ⟨ho, he⟩ | ⟨ho, he⟩ | ⟨ho, he⟩ <;> rw [he]
  · exact Or.inr ⟨ho, ⟨call, hc, hr⟩, hs⟩
  · exact Or.inl ⟨ho, absent_forget id x⟩
  · rw [ho]
    exact Or.inr ⟨rfl, ⟨_, Table.get?_set_self _ _ _, hr⟩, hs⟩

/-- The acts that end a call: it is given up, or a look shows that it is over. -/
def Ends (id : Nat) (act : Act) (x : Exchange) : Prop :=
  act = .drop id ∨ act = .poll id ∧ (x.poll id).1.isOver = true

/-- An act ends a call, or brings it where `hear` says. -/
theorem standsAt_step (hx : Sound x) (h : StandsAt id reply x) (act : Act) :
    (Ends id act x ∧ Absent id (x.step act)) ∨
    (¬Ends id act x ∧ StandsAt id (hear id reply act) (x.step act)) := by
  obtain ⟨call, hc, -⟩ := h.1
  cases act with
  | start method params =>
    have hn : id ≠ x.next := by
      intro hn
      rw [(hx.unborn id (Nat.le_of_eq hn.symm)).1] at hc
      cases hc
    rw [show hear id reply (.start method params) = reply by cases reply <;> rfl]
    exact Or.inr ⟨by simp [Ends], h.of_agrees (agrees_start method params hn)⟩
  | poll other =>
    rw [show hear id reply (.poll other) = reply by cases reply <;> rfl]
    by_cases ho : id = other
    · subst ho
      rcases standsAt_poll h with ⟨hover, ha⟩ | ⟨hover, ha⟩
      · exact Or.inl ⟨Or.inr ⟨rfl, hover⟩, ha⟩
      · exact Or.inr ⟨by simp [Ends, hover], ha⟩
    · exact Or.inr ⟨by simp [Ends, Ne.symm ho], h.of_agrees (agrees_poll ho)⟩
  | drop other =>
    rw [show hear id reply (.drop other) = reply by cases reply <;> rfl]
    by_cases ho : id = other
    · subst ho
      exact Or.inl ⟨Or.inl rfl, absent_drop hc⟩
    · exact Or.inr ⟨by simp [Ends, Ne.symm ho], h.of_agrees (agrees_drop ho)⟩
  | receive text => exact Or.inr ⟨by simp [Ends], standsAt_receive h text⟩
  | take =>
    rw [show hear id reply .take = reply by cases reply <;> rfl]
    exact Or.inr ⟨by simp [Ends], h.of_agrees (Agrees.refl id x)⟩
  | shut =>
    rw [show hear id reply .shut = reply by cases reply <;> rfl]
    exact Or.inr ⟨by simp [Ends], h.of_agrees (Agrees.refl id x)⟩
  | close => exact Or.inr ⟨by simp [Ends], standsAt_close h⟩

/-- A call that has just been given its id awaits its reply, unless it is over at once. -/
theorem standsAt_start (x : Exchange) (method : String) (params : Json) (h : x.closed = false) :
    ((x.start method params).2.1.isOver = true ∧ Absent x.next (x.start method params).2.2) ∨
    ((x.start method params).2.1.isOver = false ∧
      StandsAt x.next .awaited (x.start method params).2.2) := by
  have henlist : StandsAt x.next .awaited (x.enlist method params) :=
    ⟨⟨_, Table.get?_set_self _ _ _, rfl⟩,
      fun _ => rfl, fun _ => List.mem_append_right _ List.mem_cons_self⟩
  obtain ⟨-, hs⟩ := henlist
  rw [x.start_of_open method params h]
  rcases (x.enlist method params).trySend_cases x.next ⟨⟨x.next, method, params⟩, false, .awaited⟩
    with ⟨-, he⟩ | ⟨-, -, he⟩ | ⟨-, -, he⟩ <;> rw [he]
  · exact Or.inl ⟨rfl, absent_forget _ _⟩
  · exact Or.inr ⟨rfl, ⟨_, Table.get?_set_self _ _ _, rfl⟩, hs⟩
  · exact Or.inr ⟨rfl, ⟨_, Table.get?_set_self _ _ _, rfl⟩, hs⟩

/-! ### Runs from a sound exchange -/

theorem sound_step (hx : Sound x) (act : Act) : Sound (x.step act) := by
  by_cases hstart : ∃ method params, act = .start method params ∧ x.closed = false
  · obtain ⟨method, params, rfl, hc⟩ := hstart
    have hnext : (x.step (.start method params)).next = x.next + 1 := by
      show (x.start method params).2.2.next = _
      rw [next_start, hc]
      rfl
    refine ⟨fun id hid => ?_, fun id => ?_⟩
    · rw [hnext] at hid
      exact (hx.unborn id (by omega)).of_agrees (agrees_start method params (by omega))
    · by_cases hn : id = x.next
      · subst hn
        rcases standsAt_start x method params hc with ⟨-, h⟩ | ⟨-, h⟩
        · exact Or.inl h
        · exact Or.inr ⟨_, h⟩
      · rcases hx.stands id with h | ⟨reply, h⟩
        · exact Or.inl (h.of_agrees (agrees_start method params hn))
        · exact Or.inr ⟨reply, h.of_agrees (agrees_start method params hn)⟩
  · -- Without a new call everything is as it was for ids under which nothing is kept.
    have habsent : ∀ id, Absent id x → Absent id (x.step act) := by
      intro id h
      cases act with
      | start method params =>
        have hc : x.closed = true := by
          rw [← Bool.not_eq_false]
          exact fun hc => hstart ⟨method, params, rfl, hc⟩
        show Absent id (x.start method params).2.2
        rw [x.start_of_closed method params hc]
        exact h
      | _ => exact absent_step h _ fun _ _ he => nomatch he
    refine ⟨fun id hid => habsent id (hx.unborn id ?_), fun id => ?_⟩
    · exact Nat.le_trans (next_le_step x act) hid
    · rcases hx.stands id with h | ⟨reply, h⟩
      · exact Or.inl (habsent id h)
      · rcases standsAt_step hx h act with ⟨-, ha⟩ | ⟨-, hs⟩
        · exact Or.inl ha
        · exact Or.inr ⟨_, hs⟩

theorem sound_run (hx : Sound x) (acts : List Act) : Sound (x.run acts) := by
  induction acts generalizing x with
  | nil => exact hx
  | cons act rest ih => exact ih (sound_step hx act)

theorem sound_ofCapacity (capacity : Nat) (listener : Listener) :
    Sound (ofCapacity capacity listener) :=
  ⟨fun _ _ => ⟨rfl, List.not_mem_nil⟩, fun _ => Or.inl ⟨rfl, List.not_mem_nil⟩⟩

/-- Nothing is ever kept again under an id that has been given and under which nothing is kept. -/
theorem absent_run (h : Absent id x) (hn : id < x.next) (acts : List Act) :
    Absent id (x.run acts) := by
  induction acts generalizing x with
  | nil => exact h
  | cons act rest ih =>
    exact ih (absent_step h act fun _ _ _ => Nat.ne_of_lt hn)
      (Nat.lt_of_lt_of_le hn (next_le_step x act))

/-- Where a call stands after acts none of which ended it. -/
theorem standsAt_run (hx : Sound x) (h : StandsAt id reply x) (acts : List Act)
    (hdrop : Act.drop id ∉ acts) (ho : Ongoing id acts x) :
    StandsAt id (told id reply acts) (x.run acts) := by
  induction acts generalizing x reply with
  | nil => exact h
  | cons act rest ih =>
    obtain ⟨hlook, hrest⟩ := ho
    rcases standsAt_step hx h act with ⟨hends, -⟩ | ⟨-, hs⟩
    · rcases hends with rfl | ⟨rfl, hover⟩
      · exact absurd List.mem_cons_self hdrop
      · rw [hlook rfl] at hover
        cases hover
    · exact ih (sound_step hx act) hs (fun hm => hdrop (List.mem_cons_of_mem _ hm)) hrest

end

end NodeStack.Exchange
