import NodeStack.Proofs.Exchange.Calls

/-!
# `NodeStack.Proofs.Exchange.Outbox`: a call is held back only by a full outbox

While somebody takes frames, every place of the outbox is free, or given to a call, or holds a
frame; calls stand in line only when no place is free.

* `Outbox.Tidy`: that, with the places counted. `tidy_enter`, `tidy_put`, `tidy_leave` and
  `tidy_take` keep it.
* `Housed`: the outbox of an exchange is tidy, and every call whose frame has not been sent waits
  in line or has a place. `housed_run`: every run keeps it.
* `taken_run`: frames are taken until `shut`.
* `full_of_blocked`: so a look shows that a call is held back only when every place is taken.
-/

set_option autoImplicit false

namespace NodeStack.Exchange

namespace Outbox

/-- A call waits for a place or has been given one. -/
def Has (id : Nat) (o : Outbox) : Prop := id ∈ o.line ∨ id ∈ o.admitted

/-- Every place is taken: by a frame, or by a call that is about to put one there. -/
def Full (capacity : Nat) (o : Outbox) : Prop :=
  o.room = 0 ∧ o.admitted.length + o.frames.length = capacity

/-- The places are accounted for, and calls wait only when none is free. -/
structure Tidy (capacity next : Nat) (o : Outbox) : Prop where
  places : o.room + o.admitted.length + o.frames.length = capacity
  waits : o.line ≠ [] → o.room = 0
  nodup : (o.line ++ o.admitted).Nodup
  known : ∀ id ∈ o.line ++ o.admitted, id < next

section
variable {capacity next : Nat} {o : Outbox}

theorem hasPlace_iff {id : Nat} : o.hasPlace id = true ↔ id ∈ o.admitted := List.contains_iff_mem

theorem tidy_ofCapacity (capacity next : Nat) : Tidy capacity next (ofCapacity capacity) where
  places := by simp [ofCapacity]
  waits h := absurd rfl h
  nodup := List.nodup_nil
  known _ h := absurd h List.not_mem_nil

/-- A place that is given back adds one to those accounted for. -/
theorem tidy_free (h : Tidy capacity next o) : Tidy (capacity + 1) next o.free := by
  obtain ⟨hp, hw, hn, hk⟩ := h
  unfold free
  split
  · next hl =>
    refine ⟨?_, fun hne => absurd hl hne, hn, hk⟩
    show o.room + 1 + o.admitted.length + o.frames.length = capacity + 1
    omega
  · next id rest hl =>
    rw [hl] at hn hk
    have hperm : (rest ++ (o.admitted ++ [id])).Perm (id :: rest ++ o.admitted) := by
      rw [← List.append_assoc]
      exact List.perm_append_singleton id (rest ++ o.admitted)
    refine ⟨?_, fun _ => hw (by simp [hl]), hperm.nodup_iff.mpr hn,
      fun i hi => hk i (hperm.mem_iff.mp hi)⟩
    show o.room + (o.admitted ++ [id]).length + o.frames.length = capacity + 1
    rw [List.length_append, List.length_singleton]
    omega

theorem has_free {id : Nat} (h : o.Has id) : o.free.Has id := by
  unfold free
  split
  · exact h
  · next other rest hl =>
    show id ∈ rest ∨ id ∈ o.admitted ++ [other]
    rcases h with h | h
    · rw [hl] at h
      rcases List.mem_cons.mp h with rfl | h
      · exact Or.inr (List.mem_append_right _ List.mem_cons_self)
      · exact Or.inl h
    · exact Or.inr (List.mem_append_left _ h)

/-- A call that has a place gives it up. -/
theorem tidy_expel {id : Nat} (h : Tidy (capacity + 1) next o) (hid : id ∈ o.admitted) :
    Tidy capacity next { o with admitted := o.admitted.filter (· != id) } := by
  obtain ⟨hp, hw, hn, hk⟩ := h
  have hsub : (o.line ++ o.admitted.filter (· != id)).Sublist (o.line ++ o.admitted) :=
    (List.Sublist.refl _).append List.filter_sublist
  have hlen : (o.admitted.filter (· != id)).length + 1 = o.admitted.length := by
    rw [← (List.nodup_append.mp hn).2.1.erase_eq_filter, List.length_erase_of_mem hid]
    have := List.length_pos_of_mem hid
    omega
  refine ⟨?_, hw, hn.sublist hsub, fun i hi => hk i (hsub.subset hi)⟩
  show o.room + (o.admitted.filter (· != id)).length + o.frames.length = capacity
  omega

theorem tidy_enter (h : Tidy capacity next o) : Tidy capacity (next + 1) (o.enter next) := by
  obtain ⟨hp, hw, hn, hk⟩ := h
  have hnew : next ∉ o.line ++ o.admitted := fun hm => Nat.lt_irrefl _ (hk next hm)
  have hcons : (next :: (o.line ++ o.admitted)).Nodup := List.nodup_cons.mpr ⟨hnew, hn⟩
  have hlt : ∀ i ∈ next :: (o.line ++ o.admitted), i < next + 1 := by
    intro i hi
    rcases List.mem_cons.mp hi with rfl | hi
    · exact Nat.lt_succ_self _
    · exact Nat.lt_succ_of_lt (hk i hi)
  unfold enter
  by_cases hr : 0 < o.room
  · rw [if_pos hr]
    have hperm : (o.line ++ (o.admitted ++ [next])).Perm (next :: (o.line ++ o.admitted)) := by
      rw [← List.append_assoc]
      exact List.perm_append_singleton next (o.line ++ o.admitted)
    refine ⟨?_, fun hl => ?_, hperm.nodup_iff.mpr hcons, fun i hi => hlt i (hperm.mem_iff.mp hi)⟩
    · show o.room - 1 + (o.admitted ++ [next]).length + o.frames.length = capacity
      rw [List.length_append, List.length_singleton]
      omega
    · have := hw hl
      omega
  · rw [if_neg hr]
    have hperm : (o.line ++ [next] ++ o.admitted).Perm (next :: (o.line ++ o.admitted)) := by
      rw [List.append_assoc, List.singleton_append]
      exact List.perm_middle
    exact ⟨hp, fun _ => Nat.eq_zero_of_not_pos hr, hperm.nodup_iff.mpr hcons,
      fun i hi => hlt i (hperm.mem_iff.mp hi)⟩

theorem has_enter (id : Nat) : (o.enter id).Has id := by
  unfold enter
  split
  · exact Or.inr (List.mem_append_right _ List.mem_cons_self)
  · exact Or.inl (List.mem_append_right _ List.mem_cons_self)

theorem has_enter_of_has {id : Nat} (h : o.Has id) (other : Nat) : (o.enter other).Has id := by
  unfold enter
  split
  · exact h.imp_right (List.mem_append_left _)
  · exact h.imp_left (List.mem_append_left _)

theorem tidy_put {id : Nat} (h : Tidy capacity next o) (hid : id ∈ o.admitted) (frame : Request) :
    Tidy capacity next (o.put id frame) := by
  have hpos := List.length_pos_of_mem hid
  have hplaces := h.places
  obtain ⟨c, rfl⟩ : ∃ c, capacity = c + 1 := ⟨capacity - 1, by omega⟩
  obtain ⟨hp, hw, hn, hk⟩ := tidy_expel h hid
  refine ⟨?_, hw, hn, hk⟩
  show o.room + (o.admitted.filter (· != id)).length + (o.frames ++ [frame]).length = c + 1
  rw [List.length_append, List.length_singleton]
  show o.room + (o.admitted.filter (· != id)).length + (o.frames.length + 1) = c + 1
  change o.room + (o.admitted.filter (· != id)).length + o.frames.length = c at hp
  omega

theorem has_put {id other : Nat} (h : o.Has id) (hne : id ≠ other) (frame : Request) :
    (o.put other frame).Has id := by
  refine h.imp_right fun hm => ?_
  show id ∈ o.admitted.filter (· != other)
  simp [hm, hne]

theorem tidy_leave (h : Tidy capacity next o) (id : Nat) : Tidy capacity next (o.leave id) := by
  unfold leave
  by_cases hid : o.hasPlace id = true
  · rw [if_pos hid]
    rw [hasPlace_iff] at hid
    have hpos := List.length_pos_of_mem hid
    have hplaces := h.places
    obtain ⟨c, rfl⟩ : ∃ c, capacity = c + 1 := ⟨capacity - 1, by omega⟩
    exact tidy_free (tidy_expel h hid)
  · rw [if_neg hid]
    obtain ⟨hp, hw, hn, hk⟩ := h
    have hsub : (o.line.filter (· != id) ++ o.admitted).Sublist (o.line ++ o.admitted) :=
      List.filter_sublist.append (List.Sublist.refl _)
    refine ⟨hp, fun hne => hw fun hl => hne ?_, hn.sublist hsub, fun i hi => hk i (hsub.subset hi)⟩
    show o.line.filter (· != id) = []
    rw [hl]
    rfl

theorem has_leave {id other : Nat} (h : o.Has id) (hne : id ≠ other) : (o.leave other).Has id := by
  unfold leave
  split
  · refine has_free (h.imp_right fun hm => ?_)
    show id ∈ o.admitted.filter (· != other)
    simp [hm, hne]
  · refine h.imp_left fun hm => ?_
    show id ∈ o.line.filter (· != other)
    simp [hm, hne]

theorem tidy_take (h : Tidy capacity next o) : Tidy capacity next o.take.2 := by
  unfold take
  split
  · exact h
  · next frame rest hf =>
    obtain ⟨hp, hw, hn, hk⟩ := h
    rw [hf, List.length_cons] at hp
    obtain ⟨c, rfl⟩ : ∃ c, capacity = c + 1 := ⟨capacity - 1, by omega⟩
    refine tidy_free ⟨?_, hw, hn, hk⟩
    show o.room + o.admitted.length + rest.length = c
    omega

theorem has_take {id : Nat} (h : o.Has id) : o.take.2.Has id := by
  unfold take
  split
  · exact h
  · exact has_free h

theorem taken_free : o.free.taken = o.taken := by
  unfold free
  split <;> rfl

theorem taken_enter (id : Nat) : (o.enter id).taken = o.taken := by
  unfold enter
  split <;> rfl

theorem taken_leave (id : Nat) : (o.leave id).taken = o.taken := by
  unfold leave
  split
  · exact taken_free
  · rfl

theorem taken_take : o.take.2.taken = o.taken := by
  unfold take
  split
  · rfl
  · exact taken_free

end

end Outbox

/-! ### The outbox of an exchange -/

/-- While frames are taken, the outbox is tidy, and every call whose frame has not been sent waits in
line or has a place. -/
def Housed (capacity : Nat) (x : Exchange) : Prop :=
  x.outbox.taken = true → x.outbox.Tidy capacity x.next ∧
    ∀ id call, x.calls.get? id = some call → call.sent = false → x.outbox.Has id

section
variable {capacity : Nat} {x y : Exchange}

/-- A change that leaves the outbox alone, and starts and sends no call, keeps the exchange
housed. -/
theorem Housed.of_calls (h : Housed capacity x) (ho : y.outbox = x.outbox) (hn : y.next = x.next)
    (hc : ∀ id call, y.calls.get? id = some call → call.sent = false →
      ∃ call', x.calls.get? id = some call' ∧ call'.sent = false) : Housed capacity y := by
  intro ht
  rw [ho] at ht ⊢
  obtain ⟨htidy, hqueued⟩ := h ht
  rw [hn]
  refine ⟨htidy, fun id call hcall hsent => ?_⟩
  obtain ⟨call', hcall', hsent'⟩ := hc id call hcall hsent
  exact hqueued id call' hcall' hsent'

theorem get?_forget_of_some {id other : Nat} {call : Call}
    (h : (x.forget other).calls.get? id = some call) :
    id ≠ other ∧ x.calls.get? id = some call := by
  by_cases hid : id = other
  · rw [hid, show (x.forget other).calls.get? other = none from Table.get?_erase_self _ _] at h
    cases h
  · exact ⟨hid, (Table.get?_erase_other _ hid).symm.trans h⟩

theorem housed_forget (h : Housed capacity x) (id : Nat) : Housed capacity (x.forget id) :=
  h.of_calls rfl rfl fun _ call hc hs => ⟨call, (get?_forget_of_some hc).2, hs⟩

theorem housed_trySend (h : Housed capacity x) (id : Nat) (call : Call) :
    Housed capacity (x.trySend id call).2 := by
  rcases x.trySend_cases id call with ⟨-, he⟩ | ⟨-, hp, he⟩ | ⟨-, -, he⟩ <;> rw [he]
  · exact housed_forget h id
  · intro ht
    obtain ⟨htidy, hqueued⟩ := h ht
    refine ⟨Outbox.tidy_put htidy (Outbox.hasPlace_iff.mp hp) _, fun i c hc hs => ?_⟩
    by_cases hid : i = id
    · subst hid
      have hset : (x.calls.set i { call with sent := true }).get? i = some c := hc
      rw [Table.get?_set_self] at hset
      cases hset
      cases hs
    · exact Outbox.has_put (hqueued i c ((Table.get?_set_other _ _ hid).symm.trans hc) hs) hid _
  · exact h

theorem housed_enlist (h : Housed capacity x) (method : String) (params : Json) :
    Housed capacity (x.enlist method params) := by
  intro ht
  have htaken : x.outbox.taken = true := by
    cases hx : x.outbox.taken with
    | true => rfl
    | false =>
      have hout : (x.enlist method params).outbox = x.outbox := if_neg (by simp [hx])
      rw [hout, hx] at ht
      exact ht
  have hout : (x.enlist method params).outbox = x.outbox.enter x.next := if_pos htaken
  rw [hout]
  obtain ⟨htidy, hqueued⟩ := h htaken
  refine ⟨Outbox.tidy_enter htidy, fun id call hc hs => ?_⟩
  by_cases hid : id = x.next
  · rw [hid]
    exact Outbox.has_enter _
  · have hold := hqueued id call ((Table.get?_set_other _ _ hid).symm.trans hc) hs
    exact Outbox.has_enter_of_has hold _

theorem housed_poll (h : Housed capacity x) (id : Nat) : Housed capacity (x.poll id).2 := by
  cases hc : x.calls.get? id with
  | none =>
    rw [x.poll_of_none id hc]
    exact h
  | some call =>
    rw [x.poll_of_some id hc]
    split
    · rcases x.pollSent_cases id call with ⟨-, he⟩ | ⟨r, -, he⟩ | ⟨-, he⟩ <;> rw [he]
      · exact h
      · exact housed_forget h id
      · exact housed_forget h id
    · exact housed_trySend h id call

theorem housed_drop (h : Housed capacity x) (id : Nat) : Housed capacity (x.drop id) := by
  unfold drop
  split
  · exact h
  · next call hc =>
    dsimp only
    split
    · exact housed_forget h id
    · intro ht
      have htaken : x.outbox.taken = true := (Outbox.taken_leave id).symm.trans ht
      obtain ⟨htidy, hqueued⟩ := h htaken
      refine ⟨Outbox.tidy_leave htidy id, fun i c hi hs => ?_⟩
      obtain ⟨hne, hold⟩ := get?_forget_of_some hi
      exact Outbox.has_leave (hqueued i c hold hs) hne

theorem housed_receive (h : Housed capacity x) (text : String) :
    Housed capacity (x.receive text) := by
  unfold receive
  split
  · exact h
  · next r _ =>
    rcases x.answer_cases r with ⟨he, -⟩ | ⟨call, -, hc, he⟩ <;> rw [he]
    · exact h
    · refine h.of_calls rfl rfl fun id c hcall hs => ?_
      by_cases hid : id = r.id
      · subst hid
        have hset : (x.calls.set r.id { call with reply := .given r }).get? r.id = some c := hcall
        rw [Table.get?_set_self] at hset
        cases hset
        exact ⟨call, hc, hs⟩
      · exact ⟨c, (Table.get?_set_other _ _ hid).symm.trans hcall, hs⟩
  · exact h

theorem housed_close (h : Housed capacity x) : Housed capacity x.close := by
  refine h.of_calls rfl rfl fun id c hcall hs => ?_
  have hget := get?_releaseCalls x.slots x.calls id
  rw [show (x.slots.foldl releaseCall x.calls).get? id = some c from hcall] at hget
  split at hget
  · obtain ⟨call, hc, rfl⟩ := Option.map_eq_some_iff.mp hget.symm
    exact ⟨call, hc, hs⟩
  · exact ⟨c, hget.symm, hs⟩

theorem housed_step (h : Housed capacity x) (act : Act) : Housed capacity (x.step act) := by
  cases act with
  | start method params =>
    show Housed capacity (x.start method params).2.2
    cases hc : x.closed with
    | true =>
      rw [x.start_of_closed method params hc]
      exact h
    | false =>
      rw [x.start_of_open method params hc]
      exact housed_trySend (housed_enlist h method params) _ _
  | poll id => exact housed_poll h id
  | drop id => exact housed_drop h id
  | receive text => exact housed_receive h text
  | take =>
    intro ht
    obtain ⟨htidy, hqueued⟩ := h (Outbox.taken_take.symm.trans ht)
    exact ⟨Outbox.tidy_take htidy, fun id call hc hs => Outbox.has_take (hqueued id call hc hs)⟩
  | shut => exact fun ht => nomatch ht
  | close => exact housed_close h

theorem housed_run (h : Housed capacity x) (acts : List Act) : Housed capacity (x.run acts) := by
  induction acts generalizing x with
  | nil => exact h
  | cons act rest ih => exact ih (housed_step h act)

theorem housed_ofCapacity (capacity : Nat) (listener : Listener) :
    Housed capacity (ofCapacity capacity listener) :=
  fun _ => ⟨Outbox.tidy_ofCapacity capacity 1, fun _ _ hc => nomatch hc⟩

theorem taken_trySend (id : Nat) (call : Call) :
    (x.trySend id call).2.outbox.taken = x.outbox.taken := by
  rcases x.trySend_cases id call with ⟨-, he⟩ | ⟨-, -, he⟩ | ⟨-, -, he⟩ <;> rw [he] <;> rfl

/-- Frames are taken until somebody says that none will be. -/
theorem taken_step {act : Act} (h : act ≠ .shut) :
    (x.step act).outbox.taken = x.outbox.taken := by
  cases act with
  | start method params =>
    show (x.start method params).2.2.outbox.taken = _
    cases hc : x.closed with
    | true => rw [x.start_of_closed method params hc]
    | false =>
      rw [x.start_of_open method params hc]
      show ((x.enlist method params).trySend _ _).2.outbox.taken = _
      rw [taken_trySend]
      show (if x.outbox.taken then x.outbox.enter x.next else x.outbox).taken = _
      split
      · exact Outbox.taken_enter _
      · rfl
  | poll id =>
    show (x.poll id).2.outbox.taken = _
    cases hc : x.calls.get? id with
    | none => rw [x.poll_of_none id hc]
    | some call => rcases x.poll_cases id hc with ⟨-, he⟩ | ⟨-, he⟩ | ⟨-, he⟩ <;> rw [he] <;> rfl
  | drop id =>
    show (x.drop id).outbox.taken = _
    unfold drop
    split
    · rfl
    · dsimp only
      split
      · rfl
      · exact Outbox.taken_leave id
  | receive text =>
    show (x.receive text).outbox.taken = _
    unfold receive
    split
    · rfl
    · next r _ => rcases x.answer_cases r with ⟨he, -⟩ | ⟨call, -, -, he⟩ <;> rw [he]
    · rfl
  | take => exact Outbox.taken_take
  | shut => exact absurd rfl h
  | close => rfl

theorem taken_run {acts : List Act} (h : Act.shut ∉ acts) :
    (x.run acts).outbox.taken = x.outbox.taken := by
  induction acts generalizing x with
  | nil => rfl
  | cons act rest ih =>
    rw [List.mem_cons, not_or] at h
    exact (ih h.2).trans (taken_step (Ne.symm h.1))

/-- A call is held back only when every place of the outbox is taken. -/
theorem full_of_blocked (h : Housed capacity x) {id : Nat} (hb : (x.poll id).1 = .blocked) :
    x.outbox.Full capacity := by
  cases hc : x.calls.get? id with
  | none =>
    rw [x.poll_of_none id hc] at hb
    cases hb
  | some call =>
    rw [x.poll_of_some id hc] at hb
    cases hs : call.sent with
    | true =>
      rw [hs, if_pos rfl] at hb
      rcases x.pollSent_cases id call with ⟨-, he⟩ | ⟨r, -, he⟩ | ⟨-, he⟩ <;> rw [he] at hb <;>
        cases hb
    | false =>
      rw [hs, if_neg Bool.false_ne_true] at hb
      rcases x.trySend_cases id call with ⟨-, he⟩ | ⟨-, -, he⟩ | ⟨ht, hp, -⟩
      · rw [he] at hb
        cases hb
      · rw [he] at hb
        cases hb
      · obtain ⟨htidy, hqueued⟩ := h ht
        have hline : id ∈ x.outbox.line := by
          rcases hqueued id call hc hs with hl | ha
          · exact hl
          · rw [Outbox.hasPlace_iff.mpr ha] at hp
            cases hp
        have hroom : x.outbox.room = 0 := htidy.waits (List.ne_nil_of_mem hline)
        have hplaces := htidy.places
        exact ⟨hroom, by omega⟩

end

end NodeStack.Exchange
