import Mathlib
import NodeStack.Proofs.Exchange.Outbox

/-!
# `NodeStack.Proofs.Exchange.Matching`: each call gets the first response to it, and nothing else

What a call should be told is read off the acts since its start alone: `firstAnswer` is the first
response that carries its id and comes before the exchange is closed. Which calls can still be
answered is read off the acts too: `Outstanding`.

* `idsGiven_pairwise`: the ids of calls rise, so no two calls share one.
* `told_eq_given_iff`, `told_eq_awaited_iff`: `told`, which follows a call step by step, agrees with
  `firstAnswer`.
* `mem_slots_iff`: the slots are those of the outstanding calls.
* `calls_match_answers`: a look at a call ends it with its first answer and with no other response;
  a text resolves at most one call; and a text that answers no outstanding call changes none.

A call whose frame waits for a place in the outbox may be answered already. It is told so as soon as
its frame has been put there, and only a full outbox holds it back.
-/

set_option autoImplicit false

namespace NodeStack.Exchange

/-! ### Ids -/

/-- The ids that calls are given, in order. -/
def idsGiven : List Act → Exchange → List Nat
  | [], _ => []
  | .start method params :: rest, x =>
    (x.start method params).1.toList ++ idsGiven rest (x.step (.start method params))
  | act :: rest, x => idsGiven rest (x.step act)

/-- Whether an act begins a call. -/
def Act.isStart : Act → Bool
  | .start .. => true
  | _ => false

theorem next_step_le (x : Exchange) (act : Act) :
    (x.step act).next ≤ x.next + [act].countP Act.isStart := by
  cases act with
  | start method params =>
    show (x.start method params).2.2.next ≤ x.next + 1
    rw [next_start]
    split <;> omega
  | poll id => exact Nat.le_of_eq (next_poll x id)
  | drop id => exact Nat.le_of_eq (next_drop x id)
  | receive text => exact Nat.le_of_eq (next_receive x text)
  | take => exact Nat.le_refl _
  | shut => exact Nat.le_refl _
  | close => exact Nat.le_refl _

/-- What the first act of some adds to the ids. -/
theorem idsGiven_cons (act : Act) (rest : List Act) (x : Exchange) :
    idsGiven (act :: rest) x = idsGiven rest (x.step act) ∨
    ((x.step act).next = x.next + 1 ∧
      idsGiven (act :: rest) x = x.next :: idsGiven rest (x.step act)) := by
  cases act with
  | start method params =>
    cases hc : x.closed with
    | true => exact Or.inl (by simp [idsGiven, x.start_of_closed method params hc])
    | false =>
      refine Or.inr ⟨?_, by simp [idsGiven, x.start_of_open method params hc]⟩
      show (x.start method params).2.2.next = _
      rw [next_start, hc]
      rfl
  | _ => exact Or.inl rfl

theorem next_le_of_mem_idsGiven (acts : List Act) (x : Exchange) :
    ∀ id ∈ idsGiven acts x, x.next ≤ id := by
  induction acts generalizing x with
  | nil => intro id hid; cases hid
  | cons act rest ih =>
    intro id hid
    rcases idsGiven_cons act rest x with he | ⟨-, he⟩ <;> rw [he] at hid
    · exact Nat.le_trans (next_le_step x act) (ih _ id hid)
    · rcases List.mem_cons.mp hid with rfl | hid
      · exact Nat.le_refl _
      · exact Nat.le_trans (next_le_step x act) (ih _ id hid)

/-- Ids rise from call to call. -/
theorem idsGiven_pairwise (acts : List Act) (x : Exchange) :
    (idsGiven acts x).Pairwise (· < ·) := by
  induction acts generalizing x with
  | nil => exact List.Pairwise.nil
  | cons act rest ih =>
    rcases idsGiven_cons act rest x with he | ⟨hn, he⟩ <;> rw [he]
    · exact ih _
    · refine List.Pairwise.cons (fun id hid => ?_) (ih _)
      have := next_le_of_mem_idsGiven rest _ id hid
      omega

/-- With so many calls begun, no id is larger than that. -/
theorem idsGiven_lt (acts : List Act) (x : Exchange) :
    ∀ id ∈ idsGiven acts x, id < x.next + acts.countP Act.isStart := by
  induction acts generalizing x with
  | nil => intro id hid; cases hid
  | cons act rest ih =>
    intro id hid
    have hstep := next_step_le x act
    have hsum : (act :: rest).countP Act.isStart =
        [act].countP Act.isStart + rest.countP Act.isStart :=
      @List.countP_append _ _ [act] rest
    rcases idsGiven_cons act rest x with he | ⟨hn, he⟩ <;> rw [he] at hid
    · have := ih _ id hid
      omega
    · rcases List.mem_cons.mp hid with rfl | hid
      · omega
      · have := ih _ id hid
        omega

/-! ### What a call should be told -/

/-- The first response to a call among the texts that come before the exchange is closed. -/
def firstAnswer (id : Nat) : List Act → Option Response
  | [] => none
  | .close :: _ => none
  | .receive text :: rest => (answerTo? id text).or (firstAnswer id rest)
  | _ :: rest => firstAnswer id rest

theorem told_of_ne_awaited {id : Nat} {reply : Reply} (h : reply ≠ .awaited) (acts : List Act) :
    told id reply acts = reply := by
  induction acts with
  | nil => rfl
  | cons act rest ih =>
    show told id (hear id reply act) rest = reply
    rw [hear_of_ne_awaited h]
    exact ih

/-- What a call is told that awaits its reply, by the act that comes first. -/
theorem told_cons_cases (id : Nat) (act : Act) (rest : List Act) :
    (act = .close ∧ told id .awaited (act :: rest) = .released ∧
      firstAnswer id (act :: rest) = none) ∨
    (∃ r, told id .awaited (act :: rest) = .given r ∧ firstAnswer id (act :: rest) = some r) ∨
    (act ≠ .close ∧ hear id .awaited act = .awaited ∧
      firstAnswer id (act :: rest) = firstAnswer id rest) := by
  cases act with
  | close =>
    have htold : told id .awaited (.close :: rest) = told id .released rest := rfl
    refine Or.inl ⟨rfl, ?_, rfl⟩
    rw [htold]
    exact told_of_ne_awaited (by simp) rest
  | receive text =>
    cases h : answerTo? id text with
    | none => exact Or.inr (Or.inr ⟨by simp, by simp [hear, h], by simp [firstAnswer, h]⟩)
    | some r =>
      refine Or.inr (Or.inl ⟨r, ?_, by simp [firstAnswer, h]⟩)
      have htold : told id .awaited (.receive text :: rest) = told id (.given r) rest := by
        simp [told, hear, h]
      rw [htold]
      exact told_of_ne_awaited (by simp) rest
  | _ => exact Or.inr (Or.inr ⟨by simp, rfl, rfl⟩)

theorem told_eq_given_iff {id : Nat} {r : Response} (acts : List Act) :
    told id .awaited acts = .given r ↔ firstAnswer id acts = some r := by
  induction acts with
  | nil => simp [told, firstAnswer]
  | cons act rest ih =>
    rcases told_cons_cases id act rest with ⟨-, ht, hf⟩ | ⟨r', ht, hf⟩ | ⟨-, hh, hf⟩
    · simp [ht, hf]
    · simp [ht, hf]
    · rw [hf, ← ih]
      show told id (hear id .awaited act) rest = _ ↔ _
      rw [hh]

theorem told_eq_awaited_iff {id : Nat} (acts : List Act) :
    told id .awaited acts = .awaited ↔ firstAnswer id acts = none ∧ Act.close ∉ acts := by
  induction acts with
  | nil => simp [told, firstAnswer]
  | cons act rest ih =>
    rcases told_cons_cases id act rest with ⟨rfl, ht, hf⟩ | ⟨r', ht, hf⟩ | ⟨hc, hh, hf⟩
    · simp [ht]
    · simp [ht, hf]
    · have htold : told id .awaited (act :: rest) = told id .awaited rest := by
        show told id (hear id .awaited act) rest = _
        rw [hh]
      rw [htold, ih, hf, List.mem_cons, not_or]
      exact ⟨fun ⟨h, hm⟩ => ⟨h, Ne.symm hc, hm⟩, fun ⟨h, _, hm⟩ => ⟨h, hm⟩⟩

/-! ### Calls in a run -/

/-- Among some acts a call is begun and given an id: what its start showed, the exchange right after
it, and the acts since. -/
def Began (x₀ : Exchange) (acts : List Act) (id : Nat) (first : Progress) (x₁ : Exchange)
    (after : List Act) : Prop :=
  ∃ before method params, acts = before ++ .start method params :: after ∧
    (x₀.run before).start method params = (some id, first, x₁)

/-- Some acts leave a call as open as it was: they neither answer it nor give it up, no look shows
that it is over, and the exchange is not closed. -/
structure Unsettled (id : Nat) (acts : List Act) (x : Exchange) : Prop where
  kept : Act.drop id ∉ acts
  unclosed : Act.close ∉ acts
  ongoing : Ongoing id acts x
  unanswered : firstAnswer id acts = none

/-- A call can still be answered. -/
def Outstanding (id : Nat) (acts : List Act) (x₀ : Exchange) : Prop :=
  ∃ first x₁ after, Began x₀ acts id first x₁ after ∧ first.isOver = false ∧
    Unsettled id after x₁

/-- A look at a call has shown that its frame was put into the outbox. -/
def FrameSent (id : Nat) : List Act → Exchange → Prop
  | [], _ => False
  | act :: rest, x => (act = .poll id ∧ (x.poll id).1 = .sent) ∨ FrameSent id rest (x.step act)

section
variable {x x₀ x₁ : Exchange} {id : Nat} {acts after : List Act} {first : Progress}

/-- Where a call stands right after its start. -/
theorem Began.standing (h : Began x₀ acts id first x₁ after) (hx : Sound x₀) :
    x₀.run acts = x₁.run after ∧ Sound x₁ ∧ id < x₁.next ∧
      ((first.isOver = true ∧ Absent id x₁) ∨
        (first.isOver = false ∧ StandsAt id .awaited x₁)) := by
  obtain ⟨before, method, params, rfl, hstart⟩ := h
  have hbefore := sound_run hx before
  have hstep : (x₀.run before).step (.start method params) = x₁ := by
    show ((x₀.run before).start method params).2.2 = x₁
    rw [hstart]
  have hrun : x₀.run (before ++ .start method params :: after) = x₁.run after := by
    rw [run_append]
    show ((x₀.run before).step (.start method params)).run after = _
    rw [hstep]
  have hsound : Sound x₁ := hstep ▸ sound_step hbefore _
  cases hc : (x₀.run before).closed with
  | true =>
    rw [start_of_closed _ method params hc] at hstart
    cases hstart
  | false =>
    have hnext := next_start (x₀.run before) method params
    have hcases := standsAt_start (x₀.run before) method params hc
    have hid : (x₀.run before).next = id := by
      have := start_of_open (x₀.run before) method params hc
      rw [hstart] at this
      exact (Option.some.inj (Prod.mk.inj this).1).symm
    rw [hstart, hid] at hcases
    rw [hstart, hc, hid, if_neg Bool.false_ne_true] at hnext
    have hlt : id < x₁.next := by
      show id < (some id, first, x₁).2.2.next
      omega
    exact ⟨hrun, hsound, hlt, hcases⟩

theorem Began.cons {act : Act} {rest : List Act} (h : Began (x.step act) rest id first x₁ after) :
    Began x (act :: rest) id first x₁ after := by
  obtain ⟨before, method, params, rfl, hstart⟩ := h
  exact ⟨act :: before, method, params, rfl, hstart⟩

/-- An act that leaves a call its slot found it unsettled. -/
theorem unsettled_cons {act : Act} {rest : List Act} {reply : Reply} (hx : Sound x)
    (h : StandsAt id reply x) (hs : id ∈ (x.step act).slots)
    (hrest : Unsettled id rest (x.step act)) :
    id ∈ x.slots ∧ Unsettled id (act :: rest) x := by
  rcases standsAt_step hx h act with ⟨-, habsent⟩ | ⟨hends, hstands⟩
  · exact absurd hs habsent.2
  · have hheard : hear id reply act = .awaited := hstands.2.mp hs
    have hreply : reply = .awaited := by
      by_cases ha : reply = .awaited
      · exact ha
      · rwa [hear_of_ne_awaited ha] at hheard
    subst hreply
    obtain ⟨hdrop, hclose, hongoing, hanswer⟩ := hrest
    rcases told_cons_cases id act [] with ⟨rfl, -, -⟩ | ⟨r, htold, -⟩ | ⟨hc, -, -⟩
    · cases hheard
    · have htold : hear id .awaited act = .given r := htold
      rw [hheard] at htold
      cases htold
    · refine ⟨h.2.mpr rfl, ?_, ?_, ⟨fun he => ?_, hongoing⟩, ?_⟩
      · rw [List.mem_cons, not_or]
        exact ⟨fun he => hends (Or.inl he.symm), hdrop⟩
      · rw [List.mem_cons, not_or]
        exact ⟨Ne.symm hc, hclose⟩
      · rw [← Bool.not_eq_true]
        exact fun ho => hends (Or.inr ⟨he, ho⟩)
      · rcases told_cons_cases id act rest with ⟨he, -, -⟩ | ⟨r, htold, -⟩ | ⟨-, -, hf⟩
        · exact absurd he hc
        · have htold : told id (hear id .awaited act) rest = .given r := htold
          rw [hheard, told_eq_given_iff, hanswer] at htold
          cases htold
        · rw [hf]
          exact hanswer

/-- A call that has a slot after some acts had it before them or began among them. -/
theorem slot_origin (hx : Sound x) (acts : List Act) (hs : id ∈ (x.run acts).slots) :
    (id ∈ x.slots ∧ Unsettled id acts x) ∨ Outstanding id acts x := by
  induction acts generalizing x with
  | nil => exact Or.inl ⟨hs, List.not_mem_nil, List.not_mem_nil, trivial, rfl⟩
  | cons act rest ih =>
    rcases ih (sound_step hx act) hs with ⟨hmem, hrest⟩ | ⟨first, x₁, after, hbegan, hopen⟩
    · rcases hx.stands id with habsent | ⟨reply, hstands⟩
      · -- Only the start of this very call can have given it a slot.
        have hstart : ∃ method params, act = .start method params ∧ id = x.next := by
          by_cases h : ∃ method params, act = .start method params ∧ id = x.next
          · exact h
          · refine absurd hmem (absent_step habsent act fun method params he hid => ?_).2
            exact h ⟨method, params, he, hid⟩
        obtain ⟨method, params, rfl, rfl⟩ := hstart
        cases hc : x.closed with
        | true =>
          have hsame : x.step (.start method params) = x := by
            show (x.start method params).2.2 = x
            rw [start_of_closed x method params hc]
          rw [hsame] at hmem
          exact absurd hmem habsent.2
        | false =>
          rcases standsAt_start x method params hc with
            ⟨-, hgone⟩ | ⟨hopen, -⟩
          · exact absurd hmem hgone.2
          · have hstart : x.start method params =
                (some x.next, (x.start method params).2.1, (x.start method params).2.2) := by
              rw [x.start_of_open method params hc]
            exact Or.inr ⟨_, _, rest, ⟨[], method, params, rfl, hstart⟩, hopen, hrest⟩
      · exact Or.inl (unsettled_cons hx hstands hmem hrest)
    · exact Or.inr ⟨first, x₁, after, hbegan.cons, hopen⟩

/-- The slots are those of the calls that can still be answered. -/
theorem mem_slots_iff (hx : Sound x₀) (hs : x₀.slots = []) :
    id ∈ (x₀.run acts).slots ↔ Outstanding id acts x₀ := by
  constructor
  · intro hm
    rcases slot_origin hx acts hm with ⟨hold, -⟩ | h
    · rw [hs] at hold
      cases hold
    · exact h
  · rintro ⟨first, x₁, after, hbegan, hopen, hun⟩
    obtain ⟨hrun, hsound, -, hstands⟩ := hbegan.standing hx
    rcases hstands with ⟨hover, -⟩ | ⟨-, hstands⟩
    · rw [hopen] at hover
      cases hover
    · have hlast := standsAt_run hsound hstands after hun.kept hun.ongoing
      rw [hrun, hlast.2, told_eq_awaited_iff]
      exact ⟨hun.unanswered, hun.unclosed⟩

/-- The last look at a call shows a response only if the call was told it. -/
theorem told_of_answered (hx : Sound x) (hn : id < x.next) {reply : Reply}
    (h : StandsAt id reply x) (acts : List Act) {r : Response}
    (ha : ((x.run acts).poll id).1 = .answered r) : told id reply acts = .given r := by
  induction acts generalizing x reply with
  | nil =>
    obtain ⟨⟨call, hc, hr⟩, -⟩ := h
    have ha : (x.poll id).1 = .answered r := ha
    rw [x.poll_of_some id hc] at ha
    split at ha
    · rcases x.pollSent_cases id call with ⟨-, he⟩ | ⟨r', hr', he⟩ | ⟨-, he⟩ <;> rw [he] at ha <;>
        cases ha
      exact hr.symm.trans hr'
    · rcases x.trySend_cases id call with ⟨-, he⟩ | ⟨-, -, he⟩ | ⟨-, -, he⟩ <;> rw [he] at ha <;>
        cases ha
  | cons act rest ih =>
    have hnext := Nat.lt_of_lt_of_le hn (next_le_step x act)
    rcases standsAt_step hx h act with ⟨-, hgone⟩ | ⟨-, hs⟩
    · -- A call that is over shows no response any more.
      have habsent := absent_run hgone hnext rest
      rw [show (x.run (act :: rest)).poll id = _ from poll_of_none _ id habsent.1] at ha
      cases ha
    · exact ih (sound_step hx act) hnext hs ha

/-- A frame that was put into the outbox stays sent as long as the call is under way. -/
theorem sent_step (hx : Sound x) {call call' : Call} (hc : x.calls.get? id = some call)
    (hs : call.sent = true) (act : Act) (hc' : (x.step act).calls.get? id = some call') :
    call'.sent = true := by
  have hagrees : Agrees id x (x.step act) → call'.sent = true := by
    intro ha
    rw [ha.1, hc] at hc'
    cases hc'
    exact hs
  cases act with
  | start method params =>
    refine hagrees (agrees_start method params fun hn => ?_)
    rw [(hx.unborn id (Nat.le_of_eq hn.symm)).1] at hc
    cases hc
  | poll other =>
    by_cases ho : id = other
    · subst ho
      have hc' : (x.poll id).2.calls.get? id = some call' := hc'
      rcases x.poll_cases id hc with ⟨-, he⟩ | ⟨-, he⟩ | ⟨-, he⟩ <;> rw [he] at hc'
      · rw [hc] at hc'
        cases hc'
        exact hs
      · exact absurd rfl (get?_forget_of_some hc').1
      · have hset : (x.calls.set id { call with sent := true }).get? id = some call' := hc'
        rw [Table.get?_set_self] at hset
        cases hset
        rfl
    · exact hagrees (agrees_poll ho)
  | drop other =>
    by_cases ho : id = other
    · subst ho
      rw [show (x.step (.drop id)).calls.get? id = none from (absent_drop hc).1] at hc'
      cases hc'
    · exact hagrees (agrees_drop ho)
  | receive text =>
    cases ht : answerTo? id text with
    | none => exact hagrees (agrees_receive ht)
    | some r =>
      obtain ⟨-, rfl⟩ := answerTo?_eq_some.mp ht
      have hc' : (x.receive text).calls.get? r.id = some call' := hc'
      rw [receive_of_answer ht] at hc'
      rcases x.answer_cases r with ⟨he, -⟩ | ⟨old, -, hold, he⟩ <;> rw [he] at hc'
      · rw [hc] at hc'
        cases hc'
        exact hs
      · have hset : (x.calls.set r.id { old with reply := .given r }).get? r.id = some call' := hc'
        rw [Table.get?_set_self] at hset
        rw [hc] at hold
        cases hold
        cases hset
        exact hs
  | take => exact hagrees (Agrees.refl id x)
  | shut => exact hagrees (Agrees.refl id x)
  | close =>
    have hget := get?_releaseCalls x.slots x.calls id
    rw [show (x.slots.foldl releaseCall x.calls).get? id = some call' from hc', hc] at hget
    split at hget <;> cases hget <;> exact hs

/-- Whether the frame of a call has been put into the outbox. -/
def Posted (id : Nat) (x : Exchange) : Prop :=
  ∃ call, x.calls.get? id = some call ∧ call.sent = true

theorem posted_of_poll (h : (x.poll id).1 = .sent) : Posted id (x.poll id).2 := by
  cases hc : x.calls.get? id with
  | none =>
    rw [x.poll_of_none id hc] at h
    cases h
  | some call =>
    rw [x.poll_of_some id hc] at h ⊢
    split at h
    · rcases x.pollSent_cases id call with ⟨-, he⟩ | ⟨r, -, he⟩ | ⟨-, he⟩ <;> rw [he] at h <;>
        cases h
    · next hs =>
      rw [if_neg hs]
      rcases x.trySend_cases id call with ⟨-, he⟩ | ⟨-, -, he⟩ | ⟨-, -, he⟩ <;> rw [he] at h <;>
        cases h
      rw [he]
      exact ⟨_, Table.get?_set_self _ _ _, rfl⟩

theorem posted_run (hx : Sound x) {reply : Reply} (h : StandsAt id reply x) (acts : List Act)
    (hdrop : Act.drop id ∉ acts) (ho : Ongoing id acts x)
    (hp : Posted id x ∨ FrameSent id acts x) : Posted id (x.run acts) := by
  induction acts generalizing x reply with
  | nil => exact hp.resolve_right fun h => h
  | cons act rest ih =>
    obtain ⟨hlook, hrest⟩ := ho
    rcases standsAt_step hx h act with ⟨hends, -⟩ | ⟨-, hs⟩
    · rcases hends with rfl | ⟨rfl, hover⟩
      · exact absurd List.mem_cons_self hdrop
      · rw [hlook rfl] at hover
        cases hover
    · refine ih (sound_step hx act) hs (fun hm => hdrop (List.mem_cons_of_mem _ hm)) hrest ?_
      obtain ⟨call', hc', -⟩ := hs.1
      rcases hp with ⟨call, hc, hsent⟩ | ⟨rfl, hsent⟩ | hp
      · exact Or.inl ⟨call', hc', sent_step hx hc hsent act hc'⟩
      · exact Or.inl (posted_of_poll hsent)
      · exact Or.inr hp

/-- What the start of a call shows: its end, its frame in the outbox, or a wait for a place. -/
theorem Began.first_cases (h : Began x₀ acts id first x₁ after) :
    first = .failed .closed ∨ (first = .sent ∧ Posted id x₁) ∨ first = .blocked := by
  obtain ⟨before, method, params, rfl, hstart⟩ := h
  cases hc : (x₀.run before).closed with
  | true =>
    rw [start_of_closed _ method params hc] at hstart
    cases hstart
  | false =>
    rw [start_of_open _ method params hc] at hstart
    obtain ⟨hid, hsent⟩ := Prod.mk.inj hstart
    obtain rfl := Option.some.inj hid
    rcases ((x₀.run before).enlist method params).trySend_cases (x₀.run before).next
      ⟨⟨(x₀.run before).next, method, params⟩, false, .awaited⟩
      with ⟨-, he⟩ | ⟨-, -, he⟩ | ⟨-, -, he⟩ <;> rw [he] at hsent <;>
      obtain ⟨rfl, rfl⟩ := Prod.mk.inj hsent
    · exact Or.inl rfl
    · exact Or.inr (Or.inl ⟨rfl, _, Table.get?_set_self _ _ _, rfl⟩)
    · exact Or.inr (Or.inr rfl)

/-- A call that was begun shows no response but its first answer. -/
theorem Began.firstAnswer_of_answered (h : Began x₀ acts id first x₁ after) (hx : Sound x₀)
    {r : Response} (ha : ((x₀.run acts).poll id).1 = .answered r) :
    firstAnswer id after = some r := by
  obtain ⟨hrun, hsound, hnext, hstands⟩ := h.standing hx
  rw [hrun] at ha
  rcases hstands with ⟨-, habsent⟩ | ⟨-, hstands⟩
  · -- The call was over at its start.
    have hlater := absent_run habsent hnext after
    rw [poll_of_none _ id hlater.1] at ha
    cases ha
  · exact (told_eq_given_iff after).mp (told_of_answered hsound hnext hstands after ha)

/-- A call that was begun and is under way has been told its first answer. -/
theorem Began.standsAt_given (h : Began x₀ acts id first x₁ after) (hx : Sound x₀)
    (hopen : first.isOver = false) (hdrop : Act.drop id ∉ after) (hongoing : Ongoing id after x₁)
    {r : Response} (hanswer : firstAnswer id after = some r) :
    StandsAt id (.given r) (x₀.run acts) := by
  obtain ⟨hrun, hsound, -, ⟨hover, -⟩ | ⟨-, hstands⟩⟩ := h.standing hx
  · rw [hopen] at hover
    cases hover
  · have hlast := standsAt_run hsound hstands after hdrop hongoing
    rwa [(told_eq_given_iff after).mpr hanswer, ← hrun] at hlast

/-- A call that was begun and is under way has its frame in the outbox, or had it taken, once a look
has shown so. -/
theorem Began.posted (h : Began x₀ acts id first x₁ after) (hx : Sound x₀)
    (hopen : first.isOver = false) (hdrop : Act.drop id ∉ after) (hongoing : Ongoing id after x₁)
    (hsent : first = .sent ∨ FrameSent id after x₁) : Posted id (x₀.run acts) := by
  obtain ⟨hrun, hsound, -, ⟨hover, -⟩ | ⟨-, hstands⟩⟩ := h.standing hx
  · rw [hopen] at hover
    cases hover
  · rw [hrun]
    refine posted_run hsound hstands after hdrop hongoing (hsent.imp_left fun he => ?_)
    rcases h.first_cases with hf | ⟨-, hposted⟩ | hf
    · rw [hf] at hopen
      cases hopen
    · exact hposted
    · rw [hf] at he
      cases he

/-- What a look shows at a call that has been answered: its answer, once its frame has been put into
the outbox. -/
theorem poll_of_given {r : Response} (h : StandsAt id (.given r) x) :
    (Posted id x → (x.poll id).1 = .answered r) ∧
    (x.outbox.taken = true →
      (x.poll id).1 = .answered r ∨ (x.poll id).1 = .sent ∨ (x.poll id).1 = .blocked) := by
  obtain ⟨⟨call, hc, hr⟩, -⟩ := h
  have hsent : call.sent = true → (x.poll id).1 = .answered r := by
    intro hs
    rw [x.poll_of_some id hc, hs, if_pos rfl]
    rcases x.pollSent_cases id call with ⟨hr', -⟩ | ⟨r', hr', he⟩ | ⟨hr', -⟩ <;> rw [hr] at hr' <;>
      cases hr'
    rw [he]
  refine ⟨fun ⟨call', hc', hs⟩ => ?_, fun ht => ?_⟩
  · rw [hc] at hc'
    cases hc'
    exact hsent hs
  · cases hs : call.sent with
    | true => exact Or.inl (hsent hs)
    | false =>
      rw [x.poll_of_some id hc, hs, if_neg Bool.false_ne_true]
      rcases x.trySend_cases id call with ⟨hno, -⟩ | ⟨-, -, he⟩ | ⟨-, -, he⟩
      · rw [ht] at hno
        cases hno
      · exact Or.inr (Or.inl (by rw [he]))
      · exact Or.inr (Or.inr (by rw [he]))

/-- A text that answers no call with a slot changes no call. -/
theorem receive_unchanged {text : String} (h : ∀ id ∈ x.slots, answerTo? id text = none) :
    (x.receive text).calls = x.calls ∧ (x.receive text).slots = x.slots := by
  unfold receive
  split
  · exact ⟨rfl, rfl⟩
  · next r hr =>
    have hno : r.id ∉ x.slots := by
      intro hm
      have := h r.id hm
      rw [answerTo?_eq_some.mpr ⟨hr, rfl⟩] at this
      cases this
    rcases x.answer_cases r with ⟨he, -⟩ | ⟨call, hm, -, -⟩
    · rw [he]
      exact ⟨rfl, rfl⟩
    · exact absurd hm hno
  · exact ⟨rfl, rfl⟩

/-- A text changes no two calls. -/
theorem changed_unique {text : String} {i j : Nat} (hi : ¬Agrees i x (x.receive text))
    (hj : ¬Agrees j x (x.receive text)) : i = j := by
  have answers : ∀ id, ¬Agrees id x (x.receive text) → ∃ r, answerTo? id text = some r := by
    intro id h
    cases ha : answerTo? id text with
    | none => exact absurd (agrees_receive ha) h
    | some r => exact ⟨r, rfl⟩
  obtain ⟨r, hr⟩ := answers i hi
  obtain ⟨s, hs⟩ := answers j hj
  exact answerTo?_unique hr hs

end

/-! ### Calls and answers -/

/-- Whatever is done with an exchange, in whatever order:

* no two calls share an id, and ids do not outgrow the number of calls;
* a look at a call ends it with its first answer, or without an answer;
* it does end it with its first answer if the call's frame has been sent. A look sends the frame as
  soon as there is a place for it, and until then every place is taken;
* a text that answers no call that can still be answered changes no call and no slot;
* no text changes more than one call. -/
theorem calls_match_answers (capacity : Nat) (listener : Listener) (acts : List Act) :
    let x₀ := ofCapacity capacity listener
    let x := x₀.run acts
    ((idsGiven acts x₀).Nodup ∧ ∀ id ∈ idsGiven acts x₀, id ≤ acts.countP Act.isStart) ∧
    (∀ id first x₁ after, Began x₀ acts id first x₁ after →
      (∀ r, first ≠ .answered r) ∧
      (∀ r, (x.poll id).1 = .answered r → firstAnswer id after = some r) ∧
      (∀ r, first.isOver = false → Act.drop id ∉ after → Ongoing id after x₁ →
        firstAnswer id after = some r →
        (first = .sent ∨ FrameSent id after x₁ → (x.poll id).1 = .answered r) ∧
        (Act.shut ∉ acts → (x.poll id).1 = .answered r ∨ (x.poll id).1 = .sent ∨
          (x.poll id).1 = .blocked ∧ x.outbox.Full capacity))) ∧
    (∀ text, (∀ id, Outstanding id acts x₀ → answerTo? id text = none) →
      (x.receive text).calls = x.calls ∧ (x.receive text).slots = x.slots) ∧
    (∀ text i j, ¬Agrees i x (x.receive text) → ¬Agrees j x (x.receive text) → i = j) := by
  intro x₀ x
  have hx₀ : Sound x₀ := sound_ofCapacity capacity listener
  refine ⟨⟨?_, fun id hid => ?_⟩, fun id first x₁ after hbegan => ?_, fun text htext => ?_,
    fun text i j => changed_unique⟩
  · exact (idsGiven_pairwise acts x₀).imp Nat.ne_of_lt
  · have hlt := idsGiven_lt acts x₀ id hid
    have hone : x₀.next = 1 := rfl
    omega
  · refine ⟨fun r he => ?_, fun r ha => hbegan.firstAnswer_of_answered hx₀ ha,
      fun r hopen hdrop hongoing hanswer => ?_⟩
    · rcases hbegan.first_cases with hf | ⟨hf, -⟩ | hf <;> rw [he] at hf <;> cases hf
    · have hgiven := hbegan.standsAt_given hx₀ hopen hdrop hongoing hanswer
      obtain ⟨hposted, htaken⟩ := poll_of_given hgiven
      refine ⟨fun hsent => hposted (hbegan.posted hx₀ hopen hdrop hongoing hsent),
        fun hshut => ?_⟩
      rcases htaken (taken_run hshut) with h | h | h
      · exact Or.inl h
      · exact Or.inr (Or.inl h)
      · have hhoused := housed_run (housed_ofCapacity capacity listener) acts
        exact Or.inr (Or.inr ⟨h, full_of_blocked hhoused h⟩)
  · exact receive_unchanged fun id hid => htext id ((mem_slots_iff hx₀ rfl).mp hid)

/-- With one place in the outbox, a second call can be answered before its frame is sent. It ends
with that answer, and an unreadable text changes nothing meanwhile. -/
theorem calls_match_answers_early :
    let x₀ := ofCapacity 1 .absent
    let x₁ := x₀.run [.start "a" .null, .start "b" .null]
    let after : List Act := [.receive "[2,null,null]", .take, .poll 2]
    let x := x₀.run (.start "a" .null :: .start "b" .null :: after)
    (x₀.run [.start "a" .null]).start "b" .null = (some 2, .blocked, x₁) ∧
    (x.poll 2).1 = .answered ⟨2, .null, .null⟩ ∧
    (x.receive "]").calls = x.calls ∧ (x.receive "]").slots = x.slots := by
  intro x₀ x₁ after x
  have hbegan : Began x₀ (.start "a" .null :: .start "b" .null :: after) 2 .blocked x₁ after :=
    ⟨[.start "a" .null], "b", .null, rfl, rfl⟩
  have hlook : ((x₁.run [.receive "[2,null,null]", .take]).poll 2).1 = .sent := by cbv
  have hanswer : firstAnswer 2 after = some ⟨2, .null, .null⟩ := by cbv
  have hongoing : Ongoing 2 after x₁ := by
    refine ⟨by simp, by simp, fun _ => ?_, trivial⟩
    show ((x₁.run [.receive "[2,null,null]", .take]).poll 2).1.isOver = false
    rw [hlook]
    rfl
  have hread : Frame.ofText? "]" = none := by cbv
  obtain ⟨-, hcalls, htexts, -⟩ :=
    calls_match_answers 1 .absent (.start "a" .null :: .start "b" .null :: after)
  obtain ⟨-, -, hends⟩ := hcalls 2 .blocked x₁ after hbegan
  obtain ⟨hsent, -⟩ := hends ⟨2, .null, .null⟩ rfl (by simp [after]) hongoing hanswer
  exact ⟨rfl, hsent (Or.inr (Or.inr (Or.inr (Or.inl ⟨rfl, hlook⟩)))),
    htexts "]" fun id _ => by simp [answerTo?, hread]⟩

end NodeStack.Exchange
