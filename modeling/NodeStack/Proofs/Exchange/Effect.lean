import NodeStack.Proofs.Exchange.Calls

/-!
# `NodeStack.Proofs.Exchange.Effect`: all that an act can do

* `Effect`: what can become of an exchange by an act, one case for each thing that can happen.
* `effect_step`: every act has one of these effects. A property of single steps is proved from it by
  cases, without opening the operations again.
* `closed_step`, `closed_run`: an exchange is closed by `close` and by nothing else, for good.
* `slots_step_sublist`: no act makes a slot but that of the next id.
-/

set_option autoImplicit false

namespace NodeStack.Exchange

/-- The call that a start enters into the table. -/
abbrev newCall (x : Exchange) (method : String) (params : Json) : Call :=
  ⟨⟨x.next, method, params⟩, false, .awaited⟩

/-- A call puts its frame into the outbox. -/
def send (id : Nat) (call : Call) (x : Exchange) : Exchange :=
  { x with
    outbox := x.outbox.put id call.frame
    calls := x.calls.set id { call with sent := true } }

/-- What can become of an exchange by an act. -/
inductive Effect (x : Exchange) : Act → Exchange → Prop where
  /-- Nothing happens: there is nothing to act on, or it has to wait. -/
  | same (act : Act) (h : act ≠ .close) : Effect x act x
  /-- A call is begun, and is over because nobody takes frames. -/
  | refused (method : String) (params : Json) (hopen : x.closed = false) :
    Effect x (.start method params) ((x.enlist method params).forget x.next)
  /-- A call is begun, and its frame is put into the outbox. -/
  | begun (method : String) (params : Json) (hopen : x.closed = false) :
    Effect x (.start method params)
      ((x.enlist method params).send x.next (x.newCall method params))
  /-- A call is begun, and has to wait for a place in the outbox. -/
  | queued (method : String) (params : Json) (hopen : x.closed = false) :
    Effect x (.start method params) (x.enlist method params)
  /-- A call that has been given a place puts its frame there. -/
  | sent (id : Nat) (call : Call) (hcall : x.calls.get? id = some call)
    (hsent : call.sent = false) : Effect x (.poll id) (x.send id call)
  /-- A look shows that a call is over. -/
  | finished (id : Nat) : Effect x (.poll id) (x.forget id)
  /-- A call whose frame has been sent is given up. -/
  | dropped (id : Nat) : Effect x (.drop id) (x.forget id)
  /-- A call that waits for a place, or has one, is given up. -/
  | left (id : Nat) : Effect x (.drop id) { x.forget id with outbox := x.outbox.leave id }
  /-- A request comes from the other side. -/
  | heard (text : String) (r : Request) (hread : Frame.ofText? text = some (.request r)) :
    Effect x (.receive text) { x with listener := x.listener.hear r }
  /-- A call is answered. -/
  | answered (text : String) (r : Response) (call : Call)
    (hread : Frame.ofText? text = some (.response r)) (hslot : r.id ∈ x.slots)
    (hcall : x.calls.get? r.id = some call) :
    Effect x (.receive text) { x with
      slots := x.slots.filter (· != r.id)
      calls := x.calls.set r.id { call with reply := .given r } }
  /-- The oldest frame is taken. -/
  | taken : Effect x .take { x with outbox := x.outbox.take.2 }
  /-- Nobody takes frames any more. -/
  | shut : Effect x .shut x.shutOutbox
  /-- The exchange is closed. -/
  | closed : Effect x .close x.close

section
variable (x : Exchange)

theorem effect_start (method : String) (params : Json) :
    Effect x (.start method params) (x.start method params).2.2 := by
  cases hc : x.closed with
  | true =>
    rw [x.start_of_closed method params hc]
    exact .same _ (by simp)
  | false =>
    rw [x.start_of_open method params hc]
    rcases (x.enlist method params).trySend_cases x.next (x.newCall method params)
      with ⟨-, he⟩ | ⟨-, -, he⟩ | ⟨-, -, he⟩ <;> rw [he]
    · exact .refused method params hc
    · exact .begun method params hc
    · exact .queued method params hc

theorem effect_poll (id : Nat) : Effect x (.poll id) (x.poll id).2 := by
  cases hc : x.calls.get? id with
  | none =>
    rw [x.poll_of_none id hc]
    exact .same _ (by simp)
  | some call =>
    rw [x.poll_of_some id hc]
    cases hs : call.sent with
    | true =>
      rw [if_pos rfl]
      rcases x.pollSent_cases id call with ⟨-, he⟩ | ⟨r, -, he⟩ | ⟨-, he⟩ <;> rw [he]
      · exact .same _ (by simp)
      · exact .finished id
      · exact .finished id
    | false =>
      -- whether the call has been given a place meanwhile decides
      rw [if_neg Bool.false_ne_true]
      rcases x.trySend_cases id call with ⟨-, he⟩ | ⟨-, -, he⟩ | ⟨-, -, he⟩ <;> rw [he]
      · exact .finished id
      · exact .sent id call hc hs
      · exact .same _ (by simp)

theorem effect_drop (id : Nat) : Effect x (.drop id) (x.drop id) := by
  unfold drop
  split
  · exact .same _ (by simp)
  · dsimp only
    split
    · exact .dropped id
    · exact .left id

theorem effect_receive (text : String) : Effect x (.receive text) (x.receive text) := by
  unfold receive
  split
  · next r hr => exact .heard text r hr
  · next r hr =>
    rcases x.answer_cases r with ⟨he, -⟩ | ⟨call, hs, hc, he⟩ <;> rw [he]
    · exact .same _ (by simp)
    · exact .answered text r call hr hs hc
  · exact .same _ (by simp)

/-- Every act has one of the effects. -/
theorem effect_step (act : Act) : Effect x act (x.step act) := by
  cases act with
  | start method params => exact effect_start x method params
  | poll id => exact effect_poll x id
  | drop id => exact effect_drop x id
  | receive text => exact effect_receive x text
  | take => exact .taken
  | shut => exact .shut
  | close => exact .closed

/-- An exchange is closed by `close` and by nothing else, for good. -/
theorem closed_step (act : Act) :
    (x.step act).closed = true ↔ x.closed = true ∨ act = .close := by
  have heffect := effect_step x act
  generalize x.step act = y at heffect
  cases heffect with
  | same act h => simp [h]
  | closed => simp [close]
  | refused | begun | queued => simp [forget, send, enlist]
  | sent | finished | dropped | left | heard | answered | taken | shut =>
    simp [forget, send, shutOutbox]

theorem closed_run (acts : List Act) :
    (x.run acts).closed = true ↔ x.closed = true ∨ Act.close ∈ acts := by
  induction acts generalizing x with
  | nil => simp [run]
  | cons act rest ih =>
    show ((x.step act).run rest).closed = true ↔ _
    rw [ih, closed_step, List.mem_cons, or_assoc, eq_comm (a := act)]

/-- No act makes a slot but that of the next id, behind the others. -/
theorem slots_step_sublist (act : Act) : (x.step act).slots.Sublist (x.slots ++ [x.next]) := by
  have hsame : x.slots.Sublist (x.slots ++ [x.next]) := List.sublist_append_left _ _
  have heffect := effect_step x act
  generalize x.step act = y at heffect
  cases heffect with
  | refused => exact List.filter_sublist
  | begun | queued => exact List.Sublist.refl _
  | finished | dropped | left | answered => exact List.filter_sublist.trans hsame
  | closed => exact List.nil_sublist _
  | same | sent | heard | taken | shut => exact hsame

end

end NodeStack.Exchange
