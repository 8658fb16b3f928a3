import NodeStack.Proofs.Exchange.Slots

/-!
# `NodeStack.Proofs.Exchange.Closing`: what becomes of calls and frames when an exchange is closed

Closing an exchange is meant to let go of every call that has no answer, and to be the end of the
outbox. It does both for the calls that have a slot and whose frames have been put into the outbox.
A call that still waits for a place there only loses its slot: it is not told before its frame has
been put, so it goes on waiting, and puts its frame after the end as soon as there is room.

* `poll_of_released`: a call that was let go is over at the next look exactly if its frame has been
  put into the outbox, or nobody takes frames. Any other call is held back, or puts its frame.
* `puts_cases`: only a start and a look put frames. `unsent_of_step`: after the end, no call becomes
  one whose frame is still to be put.
* `poll_after_close`, `puts_after_close`: what looks show after the end, and which frames are put.
* `close_releases` follows every call and every frame from the end on, for every run. The last part
  is what closing is meant to do, under the condition that no frame is still to be put.
* `not_released_blocked`: without that condition it does not do so.
-/

set_option autoImplicit false

namespace NodeStack.Exchange

/-- A call under way has yet to put its frame into the outbox. -/
def Unsent (id : Nat) (frame : Request) (x : Exchange) : Prop :=
  ∃ call, x.calls.get? id = some call ∧ call.sent = false ∧ call.frame = frame

/-- An act puts a frame into the outbox. -/
def Puts (act : Act) (x : Exchange) (frame : Request) : Prop :=
  (x.step act).outbox.frames = x.outbox.frames ++ [frame]

/-! ### The frames of an outbox -/

namespace Outbox

variable (o : Outbox) (id : Nat)

@[simp] theorem frames_free : o.free.frames = o.frames := by
  unfold free
  split <;> rfl

@[simp] theorem frames_enter : (o.enter id).frames = o.frames := by
  unfold enter
  split <;> rfl

@[simp] theorem frames_leave : (o.leave id).frames = o.frames := by
  unfold leave
  split
  · exact frames_free _
  · rfl

@[simp] theorem frames_take : o.take.2.frames = o.frames.tail := by
  unfold take
  split
  · next h => rw [h]; rfl
  · next h => rw [frames_free, h]; rfl

end Outbox

section
variable {x y : Exchange} {id : Nat} {frame : Request} {acts : List Act}

@[simp] theorem frames_enlist (x : Exchange) (method : String) (params : Json) :
    (x.enlist method params).outbox.frames = x.outbox.frames := by
  show (if x.outbox.taken then x.outbox.enter x.next else x.outbox).frames = _
  split
  · exact Outbox.frames_enter _ _
  · rfl

/-- An act puts a frame into the outbox, or leaves there the latest of the frames it had. -/
theorem frames_step (x : Exchange) (act : Act) :
    (∃ frame, Puts act x frame) ∨ (x.step act).outbox.frames <:+ x.outbox.frames := by
  have heffect := effect_step x act
  unfold Puts
  generalize x.step act = y at heffect
  cases heffect with
  | begun method params =>
    refine Or.inl ⟨⟨x.next, method, params⟩, ?_⟩
    show (x.enlist method params).outbox.frames ++ _ = _
    rw [frames_enlist]
  | sent id call => exact Or.inl ⟨call.frame, rfl⟩
  | refused | queued => exact Or.inr (by simp [forget])
  | left => exact Or.inr (by simp)
  | taken => exact Or.inr (by simpa using List.tail_suffix _)
  | shut => exact Or.inr (List.nil_suffix)
  | same | finished | dropped | heard | answered | closed => exact Or.inr List.suffix_rfl

/-- Frames are put by a start of an open exchange, and by a look at a call with a frame to put. -/
theorem puts_cases {act : Act} (h : Puts act x frame) :
    x.closed = false ∨ ∃ id, act = .poll id ∧ Unsent id frame x := by
  -- an act that leaves no more frames than there were has put none
  have hlonger : ∀ rest, rest <:+ x.outbox.frames → rest ≠ x.outbox.frames ++ [frame] := by
    intro rest hrest he
    have := hrest.length_le
    rw [he, List.length_append, List.length_singleton] at this
    omega
  have heffect := effect_step x act
  unfold Puts at h
  generalize x.step act = y at heffect h
  cases heffect with
  | refused _ _ hopen | begun _ _ hopen | queued _ _ hopen => exact Or.inl hopen
  | sent id call hcall hsent =>
    have hframe : x.outbox.frames ++ [call.frame] = x.outbox.frames ++ [frame] := h
    have hsame : call.frame = frame := List.singleton_inj.mp (List.append_cancel_left hframe)
    exact Or.inr ⟨id, rfl, call, hcall, hsent, hsame⟩
  | left => exact absurd h (hlonger _ (by simp))
  | taken => exact absurd h (hlonger _ (by simpa using List.tail_suffix _))
  | shut => exact absurd h (hlonger _ List.nil_suffix)
  | same | finished | dropped | heard | answered | closed =>
    exact absurd h (hlonger _ List.suffix_rfl)

/-! ### Frames after the end -/

/-- Closing an exchange sends no frame and takes none back. -/
theorem call_of_close {call : Call} (h : x.close.calls.get? id = some call) :
    ∃ old, x.calls.get? id = some old ∧ call.sent = old.sent ∧ call.frame = old.frame := by
  have hget := get?_releaseCalls x.slots x.calls id
  rw [show (x.slots.foldl releaseCall x.calls).get? id = some call from h] at hget
  split at hget
  · obtain ⟨old, hold, rfl⟩ := Option.map_eq_some_iff.mp hget.symm
    exact ⟨old, hold, rfl, rfl⟩
  · exact ⟨call, hget.symm, rfl, rfl⟩

theorem unsent_of_close (h : Unsent id frame x.close) : Unsent id frame x := by
  obtain ⟨call, hcall, hsent, hframe⟩ := h
  obtain ⟨old, hold, hs, hf⟩ := call_of_close hcall
  exact ⟨old, hold, hs.symm.trans hsent, hf.symm.trans hframe⟩

theorem posted_close {reply : Reply} (h : Posted id x) (hs : StandsAt id reply x.close) :
    Posted id x.close := by
  obtain ⟨old, hold, hsent⟩ := h
  obtain ⟨call, hcall, -⟩ := hs.1
  obtain ⟨old', hold', hs, -⟩ := call_of_close hcall
  rw [hold] at hold'
  cases hold'
  exact ⟨call, hcall, hs.trans hsent⟩

/-- After the end a call has a frame to put only if it had it before. -/
theorem unsent_of_step (hc : x.closed = true) {act : Act} (h : Unsent id frame (x.step act)) :
    Unsent id frame x := by
  have heffect := effect_step x act
  generalize x.step act = y at heffect h
  obtain ⟨call, hcall, hsent, hframe⟩ := h
  cases heffect with
  | refused _ _ hopen | begun _ _ hopen | queued _ _ hopen =>
    rw [hc] at hopen
    cases hopen
  | sent other old =>
    have hcall : (x.calls.set other { old with sent := true }).get? id = some call := hcall
    by_cases hid : id = other
    · -- this call has just put its frame
      subst hid
      rw [Table.get?_set_self] at hcall
      cases hcall
      cases hsent
    · rw [Table.get?_set_other _ _ hid] at hcall
      exact ⟨call, hcall, hsent, hframe⟩
  | finished other | dropped other | left other =>
    have hcall : (x.forget other).calls.get? id = some call := hcall
    exact ⟨call, (get?_forget_of_some hcall).2, hsent, hframe⟩
  | answered text r old _ _ hold =>
    have hcall : (x.calls.set r.id { old with reply := .given r }).get? id = some call := hcall
    by_cases hid : id = r.id
    · subst hid
      rw [Table.get?_set_self] at hcall
      cases hcall
      exact ⟨old, hold, hsent, hframe⟩
    · rw [Table.get?_set_other _ _ hid] at hcall
      exact ⟨call, hcall, hsent, hframe⟩
  | closed => exact unsent_of_close ⟨call, hcall, hsent, hframe⟩
  | same | heard | taken | shut => exact ⟨call, hcall, hsent, hframe⟩

theorem unsent_of_run (hc : x.closed = true) (acts : List Act) (h : Unsent id frame (x.run acts)) :
    Unsent id frame x := by
  induction acts generalizing x with
  | nil => exact h
  | cons act rest ih =>
    exact unsent_of_step hc (ih ((closed_step x act).mpr (Or.inl hc)) h)

/-- A closed exchange without a frame still to be put never gets another frame. -/
theorem frames_run_suffix (hc : x.closed = true) (hsent : ∀ id frame, ¬Unsent id frame x)
    (acts : List Act) : (x.run acts).outbox.frames <:+ x.outbox.frames := by
  induction acts generalizing x with
  | nil => exact List.suffix_rfl
  | cons act rest ih =>
    have hstep : (x.step act).outbox.frames <:+ x.outbox.frames := by
      rcases frames_step x act with ⟨frame, hputs⟩ | hs
      · rcases puts_cases hputs with hopen | ⟨id, -, hun⟩
        · rw [hc] at hopen
          cases hopen
        · exact absurd hun (hsent id frame)
      · exact hs
    exact (ih ((closed_step x act).mpr (Or.inl hc))
      fun id frame hun => hsent id frame (unsent_of_step hc hun)).trans hstep

/-! ### Calls after the end -/

/-- What a look shows at a call that was let go. -/
theorem poll_of_released (h : StandsAt id .released x) :
    ((x.poll id).1 = .failed .closed ∧ (Posted id x ∨ x.outbox.taken = false)) ∨
    (((x.poll id).1 = .sent ∨ (x.poll id).1 = .blocked) ∧ ¬Posted id x ∧
      x.outbox.taken = true) := by
  obtain ⟨⟨call, hc, hr⟩, -⟩ := h
  rw [x.poll_of_some id hc]
  cases hs : call.sent with
  | true =>
    rw [if_pos rfl]
    rcases x.pollSent_cases id call with ⟨ha, -⟩ | ⟨r, hg, -⟩ | ⟨-, he⟩
    · rw [hr] at ha
      cases ha
    · rw [hr] at hg
      cases hg
    · exact Or.inl ⟨by rw [he], Or.inl ⟨call, hc, hs⟩⟩
  | false =>
    have hunsent : ¬Posted id x := by
      rintro ⟨call', hc', hs'⟩
      rw [hc] at hc'
      cases hc'
      rw [hs] at hs'
      cases hs'
    rw [if_neg Bool.false_ne_true]
    rcases x.trySend_cases id call with ⟨ht, he⟩ | ⟨ht, -, he⟩ | ⟨ht, -, he⟩ <;> rw [he]
    · exact Or.inl ⟨rfl, Or.inr ht⟩
    · exact Or.inr ⟨Or.inl rfl, hunsent, ht⟩
    · exact Or.inr ⟨Or.inr rfl, hunsent, ht⟩

/-- A live call without an answer is let go when the exchange is closed. -/
theorem Live.released {x₀ : Exchange} {after : List Act} (h : Live x₀ acts id after) (hx : Sound x₀)
    (hanswer : firstAnswer id after = none) : StandsAt id .released (x₀.run acts).close := by
  obtain ⟨first, x₁, hbegan, hopen, hdrop, hongoing⟩ := h
  obtain ⟨hrun, hsound, -, ⟨hover, -⟩ | ⟨-, hstands⟩⟩ := hbegan.standing hx
  · rw [hopen] at hover
    cases hover
  · have hlast := standsAt_close (standsAt_run hsound hstands after hdrop hongoing)
    rw [hrun]
    cases ht : told id .awaited after with
    | given r =>
      rw [told_eq_given_iff, hanswer] at ht
      cases ht
    | awaited | released =>
      rw [ht] at hlast
      exact hlast

/-- What looks show, at any time after the end, at a call that was let go then. -/
theorem poll_after_close {capacity : Nat} (hx : Sound x) (hhoused : Housed capacity x)
    (hlast : StandsAt id .released x.close) {later : List Act} (hdrop : Act.drop id ∉ later)
    (hongoing : Ongoing id later x.close) :
    let y := x.close.run later
    (Posted id x → (y.poll id).1 = .failed .closed) ∧
      ((y.poll id).1 = .failed .closed ↔ Posted id y ∨ y.outbox.taken = false) ∧
      ((y.poll id).1 = .failed .closed ∨ (y.poll id).1 = .sent ∨
        (y.poll id).1 = .blocked ∧ y.outbox.Full capacity) := by
  intro y
  have hclose : Sound x.close := sound_step hx .close
  have hy : StandsAt id .released y := by
    have := standsAt_run hclose hlast later hdrop hongoing
    rwa [told_of_ne_awaited (by simp)] at this
  have hposted : Posted id x → Posted id y := fun hp =>
    posted_run hclose hlast later hdrop hongoing (Or.inl (posted_close hp hlast))
  have hfull : (y.poll id).1 = .blocked → y.outbox.Full capacity :=
    full_of_blocked (housed_run (housed_close hhoused) later)
  rcases poll_of_released hy with ⟨he, hp⟩ | ⟨he, hp, ht⟩
  · exact ⟨fun _ => he, iff_of_true he hp, Or.inl he⟩
  · -- the call has yet to put its frame, which it cannot have done before the end either
    have hgoes : ¬(y.poll id).1 = .failed .closed := by
      rcases he with he | he <;> rw [he] <;> exact nofun
    refine ⟨fun h => absurd (hposted h) hp, iff_of_false hgoes ?_, Or.inr ?_⟩
    · rintro (h | h)
      · exact hp h
      · rw [ht] at h
        cases h
    · exact he.imp_right fun hb => ⟨hb, hfull hb⟩

/-- After the end, a frame is put only by a look at a call that had yet to put it before. -/
theorem puts_after_close {later : List Act} {act : Act} (h : Puts act (x.close.run later) frame) :
    ∃ id, act = .poll id ∧ Unsent id frame x := by
  have hclosed : x.close.closed = true := rfl
  rcases puts_cases h with hopen | ⟨id, he, hun⟩
  · rw [(closed_run x.close later).mpr (Or.inl hclosed)] at hopen
    cases hopen
  · exact ⟨id, he, unsent_of_close (unsent_of_run hclosed later hun)⟩

end

/-! ### The end of an exchange -/

/-- From the moment when an exchange is closed, after any run and whatever is done afterwards:

* a live call without an answer that had put its frame into the outbox is over at the next look. Of
  all live calls without an answer, a look shows that just those are over whose frames have been put
  by then, unless nobody takes frames any more. Any other puts its frame, or is held back by a full
  outbox;
* a frame is put only for a call that had yet to put it when the exchange was closed;
* so if there was no such call, every live call without an answer is over at the next look, and no
  frame is put ever again: those in the outbox can only become fewer. -/
theorem close_releases (capacity : Nat) (listener : Listener) (acts : List Act) :
    let x₀ := ofCapacity capacity listener
    let x := x₀.run acts
    (∀ id after, Live x₀ acts id after → firstAnswer id after = none →
      ∀ later, Act.drop id ∉ later → Ongoing id later x.close →
        let y := x.close.run later
        (Posted id x → (y.poll id).1 = .failed .closed) ∧
        ((y.poll id).1 = .failed .closed ↔ Posted id y ∨ y.outbox.taken = false) ∧
        ((y.poll id).1 = .failed .closed ∨ (y.poll id).1 = .sent ∨
          (y.poll id).1 = .blocked ∧ y.outbox.Full capacity)) ∧
    (∀ later act frame, Puts act (x.close.run later) frame →
      ∃ id, act = .poll id ∧ Unsent id frame x) ∧
    ((∀ id frame, ¬Unsent id frame x) →
      (∀ id after, Live x₀ acts id after → firstAnswer id after = none →
        ∀ later, Act.drop id ∉ later → Ongoing id later x.close →
          ((x.close.run later).poll id).1 = .failed .closed) ∧
      ∀ later, (x.close.run later).outbox.frames <:+ x.outbox.frames) := by
  intro x₀ x
  have hx₀ : Sound x₀ := sound_ofCapacity capacity listener
  have hx : Sound x := sound_run hx₀ acts
  have hhoused : Housed capacity x := housed_run (housed_ofCapacity capacity listener) acts
  refine ⟨fun id after hlive hanswer later hdrop hongoing =>
      poll_after_close hx hhoused (hlive.released hx₀ hanswer) hdrop hongoing,
    fun later act frame => puts_after_close, fun hsent =>
      ⟨fun id after hlive hanswer later hdrop hongoing => ?_,
        frames_run_suffix rfl fun id frame hun => hsent id frame (unsent_of_close hun)⟩⟩
  have hlast : StandsAt id .released x.close := hlive.released hx₀ hanswer
  refine (poll_after_close hx hhoused hlast hdrop hongoing).1 ?_
  obtain ⟨⟨call, hcall, -⟩, -⟩ := hlast
  obtain ⟨old, hold, -, -⟩ := call_of_close hcall
  cases hs : old.sent with
  | true => exact ⟨old, hold, hs⟩
  | false => exact absurd ⟨old, hold, hs, rfl⟩ (hsent id old.frame)

/-- A call whose frame was put into the outbox in time is over at the first look after the end, and
the frame stays the only one. -/
theorem close_releases_sent :
    let x₀ := ofCapacity 1 .absent
    let x := x₀.run [.start "a" .null]
    (∀ id frame, ¬Unsent id frame x) ∧ Live x₀ [.start "a" .null] 1 [] ∧
      (x.close.poll 1).1 = .failed .closed ∧
      ∀ later, (x.close.run later).outbox.frames <:+ [⟨1, "a", .null⟩] := by
  intro x₀ x
  have hlive : Live x₀ [.start "a" .null] 1 [] :=
    ⟨.sent, x, ⟨[], "a", .null, rfl, rfl⟩, rfl, List.not_mem_nil, trivial⟩
  have hsent : ∀ id frame, ¬Unsent id frame x := by
    rintro id frame ⟨call, hcall, hs, -⟩
    by_cases hid : id = 1
    · subst hid
      cases hcall
      cases hs
    · have hnone : x.calls.get? id = none := by
        refine (Table.get?_set_other _ _ hid).trans ((Table.get?_set_other _ _ hid).trans ?_)
        rfl
      rw [hnone] at hcall
      cases hcall
  obtain ⟨-, -, hall⟩ := close_releases 1 .absent [.start "a" .null]
  obtain ⟨hcalls, hframes⟩ := hall hsent
  exact ⟨hsent, hlive, hcalls 1 [] hlive rfl [] List.not_mem_nil trivial, hframes⟩

/-- With one place in the outbox, a second call waits for it when the exchange is closed. It is not
over then, and it puts its frame as soon as the first frame is taken. -/
theorem not_released_blocked :
    let x₀ := ofCapacity 1 .absent
    let acts : List Act := [.start "a" .null, .start "b" .null]
    let x := x₀.run acts
    Live x₀ acts 2 [] ∧ firstAnswer 2 [] = none ∧ (x.close.poll 2).1 = .blocked ∧
      Puts (.poll 2) (x.close.step .take) ⟨2, "b", .null⟩ :=
  ⟨⟨.blocked, (ofCapacity 1 .absent).run [.start "a" .null, .start "b" .null],
    ⟨[.start "a" .null], "b", .null, rfl, rfl⟩, rfl, List.not_mem_nil, trivial⟩, rfl, rfl, rfl⟩

end NodeStack.Exchange
