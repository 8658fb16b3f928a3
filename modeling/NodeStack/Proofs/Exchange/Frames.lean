import NodeStack.Proofs.Exchange.Closing

/-!
# `NodeStack.Proofs.Exchange.Frames`: whose frames are in the outbox

A frame in the outbox carries the id of its call, and ids are given once. So the frames of a call
can be told from all others, also after the call is over.

* `Framed`: a frame belongs to a call that was begun before, and that has been sent if it is under
  way still. `framed_run`: every run keeps it.
* `unqueued_run`: nothing is put into the outbox for a call that is over.
* `posted_run_of_standsAt`: a call that has been sent stays so as long as it is under way.
-/

set_option autoImplicit false

namespace NodeStack.Exchange

/-- The frame of each call carries its id. The frames in the outbox are those of calls that were
begun, and of calls that have been sent if they are under way. -/
structure Framed (x : Exchange) : Prop where
  named : ∀ id call, x.calls.get? id = some call → call.frame.id = id
  given : ∀ frame ∈ x.outbox.frames, frame.id < x.next
  posted : ∀ frame ∈ x.outbox.frames, ∀ call, x.calls.get? frame.id = some call → call.sent = true

/-- The outbox holds no frame of a call. -/
def Unqueued (id : Nat) (x : Exchange) : Prop := ∀ frame ∈ x.outbox.frames, frame.id ≠ id

section
variable {x y : Exchange} {id : Nat} {reply : Reply}

theorem framed_ofCapacity (capacity : Nat) (listener : Listener) :
    Framed (ofCapacity capacity listener) where
  named := fun _ _ h => by cases h
  given := fun _ h => by cases h
  posted := fun _ h => by cases h

/-- A change that begins no call, and puts no frame, keeps the exchange framed. -/
theorem Framed.of_calls (h : Framed x) (hframes : y.outbox.frames <:+ x.outbox.frames)
    (hnext : y.next = x.next)
    (hcalls : ∀ id call, y.calls.get? id = some call →
      ∃ old, x.calls.get? id = some old ∧ call.frame = old.frame ∧
        (old.sent = true → call.sent = true)) : Framed y where
  named := fun id call hcall => by
    obtain ⟨old, hold, hframe, -⟩ := hcalls id call hcall
    rw [hframe]
    exact h.named id old hold
  given := fun frame hmem => by
    rw [hnext]
    exact h.given frame (hframes.subset hmem)
  posted := fun frame hmem call hcall => by
    obtain ⟨old, hold, -, hsent⟩ := hcalls _ call hcall
    exact hsent (h.posted frame (hframes.subset hmem) old hold)

theorem Framed.forget (h : Framed x) (id : Nat) : Framed (x.forget id) :=
  h.of_calls List.suffix_rfl rfl fun _ call hcall =>
    ⟨call, (get?_forget_of_some hcall).2, rfl, fun hs => hs⟩

/-- A call is entered under the next id, which no frame carries yet. -/
theorem Framed.enlist (h : Framed x) (method : String) (params : Json) :
    Framed (x.enlist method params) := by
  have hother : ∀ id, id ≠ x.next →
      (x.enlist method params).calls.get? id = x.calls.get? id :=
    fun _ hid => Table.get?_set_other _ _ hid
  refine ⟨fun id call hcall => ?_, fun frame hmem => ?_, fun frame hmem call hcall => ?_⟩
  · by_cases hid : id = x.next
    · subst hid
      have hnew : (x.enlist method params).calls.get? x.next = some (x.newCall method params) :=
        Table.get?_set_self _ _ _
      rw [hnew] at hcall
      cases hcall
      rfl
    · rw [hother id hid] at hcall
      exact h.named id call hcall
  · rw [frames_enlist] at hmem
    exact Nat.lt_succ_of_lt (h.given frame hmem)
  · rw [frames_enlist] at hmem
    rw [hother _ (Nat.ne_of_lt (h.given frame hmem))] at hcall
    exact h.posted frame hmem call hcall

/-- A call puts its frame into the outbox. -/
theorem Framed.send (h : Framed x) {call : Call} (hcall : x.calls.get? id = some call)
    (hid : id < x.next) : Framed (x.send id call) := by
  have hname := h.named id call hcall
  have hself : (x.send id call).calls.get? id = some { call with sent := true } :=
    Table.get?_set_self _ _ _
  have hother : ∀ other, other ≠ id → (x.send id call).calls.get? other = x.calls.get? other :=
    fun _ ho => Table.get?_set_other _ _ ho
  refine ⟨fun other c hc => ?_, fun frame hmem => ?_, fun frame hmem c hc => ?_⟩
  · by_cases ho : other = id
    · subst ho
      rw [hself] at hc
      cases hc
      exact hname
    · rw [hother other ho] at hc
      exact h.named other c hc
  · rcases List.mem_append.mp hmem with hmem | hmem
    · exact h.given frame hmem
    · rw [List.mem_singleton.mp hmem, hname]
      exact hid
  · by_cases ho : frame.id = id
    · rw [ho, hself] at hc
      cases hc
      rfl
    · rw [hother _ ho] at hc
      rcases List.mem_append.mp hmem with hmem | hmem
      · exact h.posted frame hmem c hc
      · rw [List.mem_singleton.mp hmem, hname] at ho
        exact absurd rfl ho

theorem framed_step (hx : Sound x) (h : Framed x) (act : Act) : Framed (x.step act) := by
  have heffect := effect_step x act
  generalize x.step act = y at heffect
  cases heffect with
  | same => exact h
  | refused method params => exact (h.enlist method params).forget _
  | begun method params =>
    exact (h.enlist method params).send (Table.get?_set_self _ _ _) (Nat.lt_succ_self _)
  | queued method params => exact h.enlist method params
  | sent id call hcall =>
    refine h.send hcall (Nat.lt_of_not_le fun hle => ?_)
    rw [(hx.unborn id hle).1] at hcall
    cases hcall
  | finished | dropped => exact h.forget _
  | left id =>
    refine (h.forget id).of_calls ?_ rfl fun _ call hcall => ⟨call, hcall, rfl, fun hs => hs⟩
    rw [Outbox.frames_leave]
    exact List.suffix_rfl
  | heard =>
    exact h.of_calls List.suffix_rfl rfl fun _ call hcall => ⟨call, hcall, rfl, fun hs => hs⟩
  | answered text r old hread hslot hold =>
    refine h.of_calls List.suffix_rfl rfl fun id call hcall => ?_
    by_cases hid : id = r.id
    · have hset : (x.calls.set r.id { old with reply := .given r }).get? id = some call := hcall
      rw [hid, Table.get?_set_self] at hset
      cases hset
      exact ⟨old, hid ▸ hold, rfl, fun hs => hs⟩
    · exact ⟨call, (Table.get?_set_other _ _ hid).symm.trans hcall, rfl, fun hs => hs⟩
  | taken =>
    refine h.of_calls ?_ rfl fun _ call hcall => ⟨call, hcall, rfl, fun hs => hs⟩
    rw [Outbox.frames_take]
    exact List.tail_suffix _
  | shut =>
    exact h.of_calls List.nil_suffix rfl fun _ call hcall => ⟨call, hcall, rfl, fun hs => hs⟩
  | closed =>
    refine h.of_calls List.suffix_rfl rfl fun id call hcall => ?_
    obtain ⟨old, hold, hsent, hframe⟩ := call_of_close hcall
    exact ⟨old, hold, hframe, fun hs => hsent.trans hs⟩

theorem framed_run (hx : Sound x) (h : Framed x) (acts : List Act) : Framed (x.run acts) := by
  induction acts generalizing x with
  | nil => exact h
  | cons act rest ih => exact ih (sound_step hx act) (framed_step hx h act)

/-- No frame is put for a call that is over. -/
theorem unqueued_step (h : Framed x) (habsent : Absent id x) (hid : id < x.next)
    (hun : Unqueued id x) (act : Act) : Unqueued id (x.step act) := by
  have hless : ∀ {y : Exchange}, y.outbox.frames <:+ x.outbox.frames → Unqueued id y :=
    fun hsuffix frame hmem => hun frame (hsuffix.subset hmem)
  have heffect := effect_step x act
  generalize x.step act = y at heffect
  cases heffect with
  | begun method params =>
    intro frame hmem
    have hmem : frame ∈ (x.enlist method params).outbox.frames ++ [⟨x.next, method, params⟩] := hmem
    rw [frames_enlist] at hmem
    rcases List.mem_append.mp hmem with hmem | hmem
    · exact hun frame hmem
    · rw [List.mem_singleton.mp hmem]
      exact (Nat.ne_of_lt hid).symm
  | sent other call hcall =>
    intro frame hmem
    rcases List.mem_append.mp hmem with hmem | hmem
    · exact hun frame hmem
    · rw [List.mem_singleton.mp hmem, h.named other call hcall]
      rintro rfl
      rw [habsent.1] at hcall
      cases hcall
  | refused method params => exact hless (by simp [Exchange.forget])
  | queued method params => exact hless (by simp)
  | left other => exact hless (by simp)
  | taken => exact hless (by simpa using List.tail_suffix _)
  | shut => exact hless List.nil_suffix
  | same | finished | dropped | heard | answered | closed => exact hless List.suffix_rfl

theorem unqueued_run (hx : Sound x) (h : Framed x) (habsent : Absent id x) (hid : id < x.next)
    (hun : Unqueued id x) (acts : List Act) : Unqueued id (x.run acts) := by
  induction acts generalizing x with
  | nil => exact hun
  | cons act rest ih =>
    refine ih (sound_step hx act) (framed_step hx h act) ?_ ?_ (unqueued_step h habsent hid hun act)
    · exact absent_step habsent act fun _ _ _ => Nat.ne_of_lt hid
    · exact Nat.lt_of_lt_of_le hid (next_le_step x act)

theorem posted_of_frame (h : Framed x) (hs : StandsAt id reply x) {frame : Request}
    (hmem : frame ∈ x.outbox.frames) (hid : frame.id = id) : Posted id x := by
  obtain ⟨call, hcall, -⟩ := hs.1
  exact ⟨call, hcall, h.posted frame hmem call (hid ▸ hcall)⟩

/-- A call that has been sent stays so as long as it is under way. -/
theorem posted_run_of_standsAt (hx : Sound x) (hid : id < x.next) (hp : Posted id x)
    (acts : List Act) (hs : StandsAt id reply (x.run acts)) : Posted id (x.run acts) := by
  induction acts generalizing x with
  | nil => exact hp
  | cons act rest ih =>
    have hnext : id < (x.step act).next := Nat.lt_of_lt_of_le hid (next_le_step x act)
    refine ih (sound_step hx act) hnext ?_ hs
    obtain ⟨call, hcall, hsent⟩ := hp
    rcases (sound_step hx act).stands id with habsent | ⟨now, ⟨call', hcall', -⟩, -⟩
    · -- a call that is over does not come back
      obtain ⟨last, hlast, -⟩ := hs.1
      have hgone := (absent_run habsent hnext rest).1
      exact absurd (hgone.symm.trans hlast) (by simp)
    · exact ⟨call', hcall', sent_step hx hcall hsent act hcall'⟩

end

end NodeStack.Exchange
