import NodeStack.Proofs.Exchange.Effect
import NodeStack.Proofs.Exchange.Matching

/-!
# `NodeStack.Proofs.Exchange.Slots`: no slot outlives its call

A slot is made when a call is begun. It has to go when the call is over, whichever way it ends: an
answer, a failed attempt to send, a caller that gives up while it waits for a place in the outbox or
for its answer, the end of the exchange. The slots are compared with two things that do not mention
them.

* `Live` reads off the acts alone which calls are under way. `mem_slots_iff_live`: while the
  exchange is open, the slots are those of the live calls without an answer. `slots_of_closed`:
  once it is closed there are none, and none comes back.
* `Opens` and `Frees` say which call an act begins and which call it leaves without a claim to an
  answer. `mem_slots_step`: an act takes the slots away that it frees, keeps all others, and adds
  that of the call that it opens. `frees_unique`: unless it closes the exchange, an act frees the
  slot of one call at most.

`slots_match_live` puts both together for every run. A call that is over at its start, because
nobody takes frames, has a slot only within that one act, so it is never opened.
-/

set_option autoImplicit false

namespace NodeStack.Exchange

/-- A call that was begun before the acts `after` is under way: its start did not end it, it was not
given up, and no look has shown that it is over. -/
def Live (x₀ : Exchange) (acts : List Act) (id : Nat) (after : List Act) : Prop :=
  ∃ first x₁, Began x₀ acts id first x₁ after ∧ first.isOver = false ∧
    Act.drop id ∉ after ∧ Ongoing id after x₁

/-- An act begins a call that is not over at once. -/
def Opens (id : Nat) (act : Act) (x : Exchange) : Prop :=
  ∃ method params, act = .start method params ∧
    (x.start method params).1 = some id ∧ (x.start method params).2.1.isOver = false

/-- An act leaves a call without a claim to an answer: it ends the call, it brings the answer, or it
closes the exchange. -/
def Frees (id : Nat) (act : Act) (x : Exchange) : Prop :=
  Ends id act x ∨ (∃ text r, act = .receive text ∧ answerTo? id text = some r) ∨ act = .close

section
variable {x x₀ : Exchange} {id : Nat} {acts : List Act}

/-! ### What an act does to the slots -/

/-- A call that awaits its reply goes on awaiting it unless its answer comes or the exchange is
closed. -/
theorem hear_awaited_iff (act : Act) :
    hear id .awaited act = .awaited ↔
      ¬((∃ text r, act = .receive text ∧ answerTo? id text = some r) ∨ act = .close) := by
  cases act with
  | receive text => cases h : answerTo? id text <;> simp [hear, h]
  | close => simp [hear]
  | _ => simp [hear]

theorem opens_iff (act : Act) :
    Opens id act x ↔ x.closed = false ∧ id = x.next ∧ ∃ method params,
      act = .start method params ∧ (x.start method params).2.1.isOver = false := by
  constructor
  · rintro ⟨method, params, rfl, hid, hopen⟩
    cases hc : x.closed with
    | true =>
      rw [x.start_of_closed method params hc] at hid
      cases hid
    | false =>
      rw [x.start_of_open method params hc] at hid
      exact ⟨rfl, (Option.some.inj hid).symm, method, params, rfl, hopen⟩
  · rintro ⟨hc, rfl, method, params, rfl, hopen⟩
    exact ⟨method, params, rfl, by rw [x.start_of_open method params hc], hopen⟩

/-- The slots after an act: those before it that it does not free, and that of the call it opens. -/
theorem mem_slots_step (hx : Sound x) (act : Act) (id : Nat) :
    id ∈ (x.step act).slots ↔ (id ∈ x.slots ∧ ¬Frees id act x) ∨ Opens id act x := by
  rcases hx.stands id with habsent | ⟨reply, hstands⟩
  · -- Nothing is kept under the id, so only the start of this very call can make a slot.
    by_cases hstart : x.closed = false ∧ id = x.next ∧ ∃ method params, act = .start method params
    · obtain ⟨hc, rfl, method, params, rfl⟩ := hstart
      rcases standsAt_start x method params hc with ⟨hover, hgone⟩ | ⟨hopen, hs⟩
      · refine iff_of_false hgone.2 ?_
        rintro (⟨hm, -⟩ | ho)
        · exact habsent.2 hm
        · obtain ⟨-, -, _, _, he, hopen⟩ := (opens_iff _).mp ho
          cases he
          rw [hover] at hopen
          cases hopen
      · exact iff_of_true (hs.2.mpr rfl)
          (Or.inr ((opens_iff _).mpr ⟨hc, rfl, method, params, rfl, hopen⟩))
    · have hkept : Absent id (x.step act) := by
        cases act with
        | start method params =>
          cases hc : x.closed with
          | true =>
            show Absent id (x.start method params).2.2
            rw [x.start_of_closed method params hc]
            exact habsent
          | false =>
            refine absent_step habsent _ fun _ _ _ hid => hstart ⟨hc, hid, method, params, rfl⟩
        | _ => exact absent_step habsent _ fun _ _ he => nomatch he
      refine iff_of_false hkept.2 ?_
      rintro (⟨hm, -⟩ | ho)
      · exact habsent.2 hm
      · obtain ⟨hc, hid, method, params, he, -⟩ := (opens_iff act).mp ho
        exact hstart ⟨hc, hid, method, params, he⟩
  · -- The call is under way, so its id is not given again.
    have hold : ¬Opens id act x := by
      intro ho
      obtain ⟨call, hc, -⟩ := hstands.1
      obtain ⟨-, rfl, -⟩ := (opens_iff act).mp ho
      rw [(hx.unborn x.next (Nat.le_refl _)).1] at hc
      cases hc
    rw [or_iff_left hold, hstands.2]
    rcases standsAt_step hx hstands act with ⟨hends, hgone⟩ | ⟨hends, hs⟩
    · exact iff_of_false hgone.2 fun h => h.2 (Or.inl hends)
    · -- The call goes on, and has a slot as long as it awaits its reply.
      rw [hs.2]
      constructor
      · intro hheard
        have hreply : reply = .awaited := by
          by_cases ha : reply = .awaited
          · exact ha
          · rwa [hear_of_ne_awaited ha] at hheard
        subst hreply
        exact ⟨rfl, fun hf => (hear_awaited_iff act).mp hheard (hf.resolve_left hends)⟩
      · rintro ⟨rfl, hf⟩
        exact (hear_awaited_iff act).mpr fun h => hf (Or.inr h)

/-- An act that does not close the exchange frees the slot of one call at most. -/
theorem frees_unique {act : Act} (hact : act ≠ .close) {i j : Nat} (hi : Frees i act x)
    (hj : Frees j act x) : i = j := by
  rcases hi with (rfl | ⟨rfl, -⟩) | ⟨text, r, rfl, hr⟩ | rfl
  · rcases hj with (he | ⟨he, -⟩) | ⟨_, _, he, -⟩ | he <;> cases he
    rfl
  · rcases hj with (he | ⟨he, -⟩) | ⟨_, _, he, -⟩ | he <;> cases he
    rfl
  · rcases hj with (he | ⟨he, -⟩) | ⟨_, s, he, hs⟩ | he <;> cases he
    exact answerTo?_unique hr hs
  · exact absurd rfl hact

theorem nodup_run (hx : Sound x) (h : x.slots.Nodup) (acts : List Act) :
    (x.run acts).slots.Nodup := by
  induction acts generalizing x with
  | nil => exact h
  | cons act rest ih =>
    have hnew : x.next ∉ x.slots := (hx.unborn x.next (Nat.le_refl _)).2
    refine ih (sound_step hx act) ((?_ : (x.slots ++ [x.next]).Nodup).sublist
      (slots_step_sublist x act))
    exact (List.perm_append_singleton x.next x.slots).nodup_iff.mpr (List.nodup_cons.mpr ⟨hnew, h⟩)

/-! ### The end of the exchange -/

/-- Once an exchange is closed it has no slots, whatever is done with it. -/
theorem slots_of_closed (hx : Sound x₀) (hopen : x₀.closed = false)
    (hc : (x₀.run acts).closed = true) : (x₀.run acts).slots = [] := by
  -- The run is cut at its `close`, which leaves no slot.
  have hmem : Act.close ∈ acts := by
    rcases (closed_run x₀ acts).mp hc with h | h
    · rw [hopen] at h
      cases h
    · exact h
  obtain ⟨before, after, rfl⟩ := List.append_of_mem hmem
  -- No call begins after the end, so the slots stay as `close` leaves them.
  have hafter : ∀ (rest : List Act) (y : Exchange), Sound y → y.closed = true → y.slots = [] →
      (y.run rest).slots = [] := by
    intro rest
    induction rest with
    | nil => exact fun _ _ _ h => h
    | cons act rest ih =>
      intro y hy hclosed hnone
      refine ih _ (sound_step hy act) ((closed_step y act).mpr (Or.inl hclosed)) ?_
      refine List.eq_nil_iff_forall_not_mem.mpr fun id hm => ?_
      rcases (mem_slots_step hy act id).mp hm with ⟨hold, -⟩ | hopens
      · rw [hnone] at hold
        cases hold
      · rw [((opens_iff act).mp hopens).1] at hclosed
        cases hclosed
  rw [run_append]
  exact hafter after _ (sound_step (sound_run hx before) .close) rfl rfl

/-- While an exchange is open its slots are those of the live calls that have no answer yet. -/
theorem mem_slots_iff_live (hx : Sound x₀) (hs : x₀.slots = [])
    (hopen : (x₀.run acts).closed = false) :
    id ∈ (x₀.run acts).slots ↔ ∃ after, Live x₀ acts id after ∧ firstAnswer id after = none := by
  rw [mem_slots_iff hx hs]
  constructor
  · rintro ⟨first, x₁, after, hbegan, hfirst, hun⟩
    exact ⟨after, ⟨first, x₁, hbegan, hfirst, hun.kept, hun.ongoing⟩, hun.unanswered⟩
  · rintro ⟨after, ⟨first, x₁, hbegan, hfirst, hkept, hongoing⟩, hanswer⟩
    refine ⟨first, x₁, after, hbegan, hfirst, hkept, fun hm => ?_, hongoing, hanswer⟩
    obtain ⟨before, method, params, rfl, -⟩ := hbegan
    have hclosed := (closed_run x₀ (before ++ .start method params :: after)).mpr
      (Or.inr (List.mem_append_right _ (List.mem_cons_of_mem _ hm)))
    rw [hopen] at hclosed
    cases hclosed

end

/-! ### Slots and live calls -/

/-- Whatever has been done with an exchange, in whatever order:

* while it is open, its slots are those of the live calls without an answer, each once;
* `close` closes it for good, and then it has no slots, whatever is done afterwards;
* an act takes the slots away that it frees, keeps all others, and adds that of the call that it
  opens, which is new. An act other than `close` frees the slot of one call at most. -/
theorem slots_match_live (capacity : Nat) (listener : Listener) (acts : List Act) :
    let x₀ := ofCapacity capacity listener
    let x := x₀.run acts
    (x.slots.Nodup ∧ (x.closed = false → ∀ id,
      id ∈ x.slots ↔ ∃ after, Live x₀ acts id after ∧ firstAnswer id after = none)) ∧
    ((x.closed = true ↔ Act.close ∈ acts) ∧
      (x.closed = true → ∀ later, (x.run later).slots = [])) ∧
    (∀ act, (∀ id, id ∈ (x.step act).slots ↔ (id ∈ x.slots ∧ ¬Frees id act x) ∨ Opens id act x) ∧
      (∀ id, Opens id act x → id ∉ x.slots) ∧
      (act ≠ .close → ∀ i j, Frees i act x → Frees j act x → i = j)) := by
  intro x₀ x
  have hx₀ : Sound x₀ := sound_ofCapacity capacity listener
  have hx : Sound x := sound_run hx₀ acts
  refine ⟨⟨nodup_run hx₀ List.nodup_nil acts, fun hopen id => mem_slots_iff_live hx₀ rfl hopen⟩,
    ⟨?_, fun hclosed later => ?_⟩,
    fun act => ⟨mem_slots_step hx act, fun id hopens => ?_, fun hact _ _ => frees_unique hact⟩⟩
  · rw [closed_run, or_iff_right (by simp [x₀, ofCapacity])]
  · have hlater : (x.run later).closed = true := (closed_run x later).mpr (Or.inl hclosed)
    rw [← run_append] at hlater ⊢
    exact slots_of_closed hx₀ rfl hlater
  · obtain ⟨-, rfl, -⟩ := (opens_iff act).mp hopens
    exact (hx.unborn x.next (Nat.le_refl _)).2

/-- Two calls, the second of which is answered before there is a place for its frame. -/
def answeredEarly : List Act :=
  [.start "a" .null, .start "b" .null, .receive "[2,null,null]"]

/-- A call that was answered while it waited for a place is still live, without a slot. The other
call keeps its slot until the exchange is closed, or it is given up. -/
theorem slots_match_live_early :
    let x₀ := ofCapacity 1 .absent
    let x := x₀.run answeredEarly
    let ended := x₀.run (answeredEarly ++ [.close])
    (x.closed = false ∧ ∃ after, Live x₀ answeredEarly 1 after ∧ firstAnswer 1 after = none) ∧
    (∀ after, Live x₀ answeredEarly 2 after → firstAnswer 2 after ≠ none) ∧
    (ended.closed = true ∧ (ended.run [.start "c" .null]).slots = []) ∧
    (Frees 1 (.drop 1) x ∧ ¬Frees 2 (.drop 1) x) := by
  have hslots : ((ofCapacity 1 .absent).run answeredEarly).slots = [1] := by cbv
  have hopen : ((ofCapacity 1 .absent).run answeredEarly).closed = false := by cbv
  have hclosed : ((ofCapacity 1 .absent).run (answeredEarly ++ [.close])).closed = true := by cbv
  obtain ⟨⟨-, hlive⟩, -, hact⟩ := slots_match_live 1 .absent answeredEarly
  obtain ⟨-, ⟨-, hnone⟩, -⟩ := slots_match_live 1 .absent (answeredEarly ++ [.close])
  obtain ⟨-, -, hunique⟩ := hact (.drop 1)
  have hfirst : Frees 1 (.drop 1) ((ofCapacity 1 .absent).run answeredEarly) := Or.inl (Or.inl rfl)
  refine ⟨⟨hopen, (hlive hopen 1).mp (by rw [hslots]; exact List.mem_cons_self)⟩,
    fun after h hanswer => ?_, ⟨hclosed, hnone hclosed _⟩, hfirst, fun h => ?_⟩
  · have hmem := (hlive hopen 2).mpr ⟨after, h, hanswer⟩
    rw [hslots] at hmem
    simp at hmem
  · exact absurd (hunique (by simp) 1 2 hfirst h) (by decide)

end NodeStack.Exchange
