import NodeStack.Proofs.Exchange.Frames
import NodeStack.Proofs.Launcher.Isolation

/-!
# `NodeStack.Proofs.Launcher.Deadline`: where a call stands until its deadline, and what is left

A call can end in three ways: a look shows how it ended, a look finds its deadline past, or it is
given up. Each of them has to take it off its exchange, wherever it was waiting.

* `Call.standsAt_lookActs`: a look leaves a call as it was, or takes it off.
* `UnderWay` reads off the acts which calls were begun and have not ended; `Begun` says that a call
  was given its id, which no other call on its session has (`begun_unique`).
* `Clocked`: a run in which time does not pass the deadline of a call under way.
* `Stands`: a call that was begun is on its exchange and has been told what its launcher said since,
  or it is over and nothing is kept of it. `stands_of_opens` and `standsAt_act` are its steps: the
  beginning of a call, and an act that does not end it. `Clocked.stands`: every run keeps it.
* `Clocked.poll_of_fed`, `Clocked.poll_of_silent`: what a look shows, at any time, at a call that was
  answered, and at one that was not.
* `Clocked.absent`, `Clocked.not_queued`: a call that is over stays so, whatever is done.
-/

set_option autoImplicit false

namespace NodeStack.Launcher

open Exchange (Absent Posted Reply StandsAt answerTo? hear)

/-! ### Looks at one call -/

namespace Call

section
variable {x : Exchange} {id other : Nat} {reply : Reply}

/-- A look shows that a call is under way exactly if it is not over and its deadline has not come. -/
theorem verdict_underWay {now : Nat} {c : Call} {progress : Exchange.Progress} :
    c.verdict now progress = .underWay ↔ progress.isOver = false ∧ now < c.deadline := by
  cases progress <;> simp [verdict, Exchange.Progress.isOver]

theorem standsAt_look (h : StandsAt id reply x) :
    ((look id x).1.isOver = true ∧ Absent id (look id x).2) ∨
    ((look id x).1.isOver = false ∧ StandsAt id reply (look id x).2) := by
  rcases look_cases id x with he | ⟨hsent, he⟩ <;> rw [he]
  · exact Exchange.standsAt_poll h
  · -- the first look has only sent the call
    rcases Exchange.standsAt_poll h with ⟨hover, -⟩ | ⟨-, hstands⟩
    · rw [hsent] at hover
      cases hover
    · exact Exchange.standsAt_poll hstands

/-- A look at a call leaves it as it was, or ends it. -/
theorem standsAt_lookActs {c : Call} (h : StandsAt c.id reply x) (now : Nat) :
    (c.verdict now (look c.id x).1 = .underWay ∧
      StandsAt c.id reply (x.run (lookActs now c.deadline c.id x))) ∨
    (c.verdict now (look c.id x).1 ≠ .underWay ∧
      Absent c.id (x.run (lookActs now c.deadline c.id x))) := by
  rw [run_lookActs, Ne, verdict_underWay]
  rcases standsAt_look h with ⟨hover, habsent⟩ | ⟨hover, hstands⟩
  · rw [if_neg (by simp [hover])]
    exact .inr ⟨by simp [hover], habsent⟩
  · by_cases hdue : c.deadline ≤ now
    · rw [if_pos ⟨hover, hdue⟩]
      obtain ⟨call, hcall, -⟩ := hstands.1
      exact .inr ⟨fun hv => absurd hdue (by omega), Exchange.absent_drop hcall⟩
    · rw [if_neg (by simp [hdue])]
      exact .inl ⟨⟨hover, by omega⟩, hstands⟩

/-- A call that awaits its reply is not over while frames are taken. -/
theorem look_of_awaited (h : StandsAt id .awaited x) (htaken : x.outbox.taken = true) :
    (look id x).1.isOver = false := by
  have hpoll : ∀ {y : Exchange}, StandsAt id .awaited y → y.outbox.taken = true →
      (y.poll id).1.isOver = false := by
    intro y hy ht
    obtain ⟨⟨call, hcall, hreply⟩, -⟩ := hy
    rw [y.poll_of_some id hcall]
    split
    · rcases y.pollSent_cases id call with ⟨-, he⟩ | ⟨r, hg, -⟩ | ⟨hr, -⟩
      · rw [he]
        rfl
      · rw [hreply] at hg
        cases hg
      · rw [hreply] at hr
        cases hr
    · rcases y.trySend_cases id call with ⟨hno, -⟩ | ⟨-, -, he⟩ | ⟨-, -, he⟩
      · rw [ht] at hno
        cases hno
      · rw [he]
        rfl
      · rw [he]
        rfl
  rcases look_cases id x with he | ⟨hsent, he⟩ <;> rw [he]
  · exact hpoll h htaken
  · rcases Exchange.standsAt_poll h with ⟨hover, -⟩ | ⟨-, hstands⟩
    · rw [hsent] at hover
      cases hover
    · exact hpoll hstands ((Exchange.taken_step (by simp)).trans htaken)

/-- There is nothing to look at once more. -/
theorem look_of_over (h : (x.poll id).1.isOver = true) :
    look id x = x.poll id := by
  rcases look_cases id x with he | ⟨hsent, -⟩
  · exact he
  · rw [hsent] at h
    cases h

theorem verdict_of_not_over {now : Nat} {c : Call} {progress : Exchange.Progress}
    (h : progress.isOver = false) :
    c.verdict now progress = if c.deadline ≤ now then .ended (.error .timeout) else .underWay := by
  cases progress <;> first | rfl | cases h

theorem conclude_ne_timeout (errand : Errand) (response : Exchange.Response) :
    conclude errand response ≠ .error .timeout := by
  unfold conclude
  split
  · simp
  · unfold Errand.interpret
    split
    · split <;> simp
    · simp
    · simp

/-- A look at a call leaves the others alone. -/
theorem agrees_lookActs (h : id ≠ other) (now deadline : Nat) (y : Exchange) :
    Exchange.Agrees id x (x.run (lookActs now deadline other y)) := by
  have hall : ∀ act ∈ lookActs now deadline other y, act = .poll other ∨ act = .drop other :=
    fun _ => mem_lookActs
  generalize lookActs now deadline other y = acts at hall
  induction acts generalizing x with
  | nil => exact Exchange.Agrees.refl id x
  | cons act rest ih =>
    rw [List.forall_mem_cons] at hall
    have hstep : Exchange.Agrees id x (x.step act) := by
      rcases hall.1 with rfl | rfl
      · exact Exchange.agrees_poll h
      · exact Exchange.agrees_drop h
    exact hstep.trans (ih hall.2)

end

/-- What an act has to say on the exchange of a call: a text comes from its launcher, or its launcher
is detached. -/
def heard? (c : Call) : Roster.Act → Option Exchange.Act
  | .inbound s text => if s = c.session then some (.receive text) else none
  | .remove s => if s = c.session then some .close else none
  | _ => none

/-- What a call has been told by some acts. -/
def told (c : Call) (acts : List Roster.Act) : Reply :=
  Exchange.told c.id .awaited (acts.filterMap c.heard?)

/-- The response that a call was fed: the first text from its launcher that answers it, before the
launcher was detached. -/
def fed? (c : Call) (acts : List Roster.Act) : Option Exchange.Response :=
  Exchange.firstAnswer c.id (acts.filterMap c.heard?)

end Call

namespace Roster

/-! ### Sessions -/

/-- Every session has grown from an empty exchange, and has been closed if it is not attached. -/
def Grown (r : Roster) : Prop :=
  ∀ t x, r.sessions.get? t = some x → t ≤ r.count ∧
    ∃ capacity acts, x = (Exchange.ofCapacity capacity (.listening [])).run acts ∧
      (t ∉ r.attached → .close ∈ acts)

section
variable {r : Roster}

theorem grown_empty : Grown empty := by
  intro t x h
  cases h

theorem grown_step (h : Grown r) (act : Act) : Grown (r.step act) := by
  intro t y hy
  by_cases hnew : ∃ capacity, act = .register capacity
  · obtain ⟨capacity, rfl⟩ := hnew
    rw [get?_register] at hy
    split at hy
    · next ht =>
      refine ⟨Nat.le_of_eq ht, capacity, [], (Option.some.inj hy).symm, fun hno => absurd ?_ hno⟩
      rw [mem_attached_step]
      exact .inr ⟨capacity, rfl, ht⟩
    · obtain ⟨hcount, capacity', acts, rfl, hclosed⟩ := h t y hy
      refine ⟨Nat.le_succ_of_le hcount, capacity', acts, rfl, fun hno => hclosed fun hmem => hno ?_⟩
      rw [mem_attached_step]
      exact .inl ⟨hmem, by simp⟩
  · have hnot : ∀ capacity, act ≠ .register capacity := fun capacity he => hnew ⟨capacity, he⟩
    have hattached : t ∉ (r.step act).attached → t ∉ r.attached ∨ act = .remove t := by
      intro hno
      rw [mem_attached_step, not_or, not_and, not_not] at hno
      by_cases hmem : t ∈ r.attached
      · exact .inr (hno.1 hmem)
      · exact .inl hmem
    rw [r.count_step hnot]
    rw [r.get?_step hnot] at hy
    split at hy
    · next htarget =>
      obtain ⟨x, hx, rfl⟩ := Option.map_eq_some_iff.mp hy
      obtain ⟨hcount, capacity, acts, rfl, hclosed⟩ := h t x hx
      refine ⟨hcount, capacity, acts ++ act.deeds _, (Exchange.run_append _ _ _).symm, ?_⟩
      intro hno
      rcases hattached hno with hno | rfl
      · exact List.mem_append_left _ (hclosed hno)
      · exact List.mem_append_right _ List.mem_cons_self
    · next htarget =>
      obtain ⟨hcount, capacity, acts, rfl, hclosed⟩ := h t y hy
      refine ⟨hcount, capacity, acts, rfl, fun hno => ?_⟩
      rcases hattached hno with hno | rfl
      · exact hclosed hno
      · -- a removal that does not reach its session finds it detached
        refine hclosed fun hmem => htarget ?_
        rw [target, if_pos hmem]

theorem grown_run (acts : List Act) : Grown (empty.run acts) := by
  have hall : ∀ r, Grown r → Grown (r.run acts) := by
    induction acts with
    | nil => exact fun _ h => h
    | cons act rest ih => exact fun r h => ih _ (grown_step h act)
  exact hall _ grown_empty

theorem Grown.sound (h : Grown r) {t : Nat} {x : Exchange} (hx : r.sessions.get? t = some x) :
    x.Sound := by
  obtain ⟨-, capacity, acts, rfl, -⟩ := h t x hx
  exact Exchange.sound_run (Exchange.sound_ofCapacity _ _) acts

theorem Grown.framed (h : Grown r) {t : Nat} {x : Exchange} (hx : r.sessions.get? t = some x) :
    x.Framed := by
  obtain ⟨-, capacity, acts, rfl, -⟩ := h t x hx
  exact Exchange.framed_run (Exchange.sound_ofCapacity _ _) (Exchange.framed_ofCapacity _ _) acts

/-- Nobody on a detached session can be answered. -/
theorem Grown.slots_eq_nil (h : Grown r) {t : Nat} {x : Exchange}
    (hx : r.sessions.get? t = some x) (hno : t ∉ r.attached) : x.slots = [] := by
  obtain ⟨-, capacity, acts, rfl, hclosed⟩ := h t x hx
  exact Exchange.slots_of_closed (Exchange.sound_ofCapacity _ _) rfl
    ((Exchange.closed_run _ _).mpr (.inr (hclosed hno)))

end

/-- The session is still there after an act, and has run through some deeds of the act. -/
theorem exists_step {r : Roster} (h : Grown r) (act : Act) {t : Nat} {x : Exchange}
    (hx : r.sessions.get? t = some x) :
    (r.target act = some t ∧ (r.step act).sessions.get? t = some (x.run (act.deeds x))) ∨
    (r.target act ≠ some t ∧ (r.step act).sessions.get? t = some x) := by
  by_cases hnew : ∃ capacity, act = .register capacity
  · obtain ⟨capacity, rfl⟩ := hnew
    have hcount := (h t x hx).1
    refine .inr ⟨by simp [target, Act.session?], ?_⟩
    rw [get?_register, if_neg (by omega), hx]
  · have hstep := r.get?_step (fun capacity he => hnew ⟨capacity, he⟩) t
    by_cases htarget : r.target act = some t
    · rw [if_pos htarget, hx] at hstep
      exact .inl ⟨htarget, hstep⟩
    · rw [if_neg htarget, hx] at hstep
      exact .inr ⟨htarget, hstep⟩

/-! ### Calls in a run -/

/-- An act begins a call, which is given its id: on the session that the act names, or on the first
one if it is routed. -/
def Act.Opens (now : Nat) (c : Call) (r : Roster) (act : Act) : Prop :=
  (act = .call c.session now c.deadline c.errand ∨
    (act = .route now c.deadline c.errand ∧ r.first = some c.session)) ∧
  ∃ x, r.sessions.get? c.session = some x ∧ (Call.startOn c.errand x).1 = some c.id

/-- What the beginning of a call shows: how it ended, or the call. -/
def Act.started? (r : Roster) : Act → Option (Except Fault Json ⊕ Call)
  | .route now deadline errand => some (Call.begin now deadline errand r).1
  | .call s now deadline errand => some (Call.beginOn now deadline s errand r).1
  | _ => none

/-- An act ends a call: it gives the call up, or is a look that shows how it ended. -/
def Act.Ends (c : Call) (r : Roster) (act : Act) : Prop :=
  act = .cancel c ∨ ∃ now outcome, act = .look now c ∧ (c.poll now r).1 = .ended outcome

/-- Some acts do not end a call. -/
def Waits (c : Call) : List Act → Roster → Prop
  | [], _ => True
  | act :: rest, r => ¬act.Ends c r ∧ Waits c rest (r.step act)

/-- A call was begun, whether or not it was over at once, and the acts since. -/
def Begun (acts : List Act) (c : Call) (after : List Act) : Prop :=
  ∃ before act now, acts = before ++ act :: after ∧ act.Opens now c (empty.run before)

/-- A call is under way: it was not over when it was begun, and no act since has ended it. -/
def UnderWay (acts : List Act) (c : Call) (after : List Act) : Prop :=
  ∃ before act, acts = before ++ act :: after ∧
    act.started? (empty.run before) = some (.inr c) ∧ Waits c after (empty.run (before ++ [act]))

/-- A frame of a call has been in the outbox of its session. -/
def Queued (acts : List Act) (c : Call) : Prop :=
  ∃ early late x frame, acts = early ++ late ∧
    (empty.run early).sessions.get? c.session = some x ∧ frame ∈ x.outbox.frames ∧ frame.id = c.id

/-- What can be done at a time. Calls are looked at and given up while they are under way. -/
def Act.Timely (now : Nat) (acts : List Act) : Act → Prop
  | .route t _ _ | .call _ t _ _ => t = now
  | .look t c => t = now ∧ ∃ after, UnderWay acts c after
  | .cancel c => ∃ after, UnderWay acts c after
  | _ => True

/-- A run on a clock: the time, and the acts so far. Time never passes the deadline of a call that is
under way, since this is when its timer wakes it, and it is looked at. -/
inductive Clocked : Nat → List Act → Prop where
  | start : Clocked 0 []
  | act {now : Nat} {acts : List Act} {act : Act} (h : Clocked now acts)
    (hact : act.Timely now acts) : Clocked now (acts ++ [act])
  | pass {now later : Nat} {acts : List Act} (h : Clocked now acts) (hle : now ≤ later)
    (hdue : ∀ c after, UnderWay acts c after → later ≤ c.deadline) : Clocked later acts

section
variable {acts after : List Act} {act : Act} {c : Call} {r : Roster} {now : Nat}

theorem waits_append : ∀ {late : List Act} {r : Roster},
    Waits c (after ++ late) r ↔ Waits c after r ∧ Waits c late (r.run after) := by
  induction after with
  | nil => exact fun {_ _} => ⟨fun h => ⟨trivial, h⟩, fun h => h.2⟩
  | cons act rest ih =>
    intro late r
    rw [List.cons_append, Waits, Waits, ih, and_assoc]
    rfl

theorem begun_concat :
    Begun (acts ++ [act]) c after ↔
      (∃ earlier, after = earlier ++ [act] ∧ Begun acts c earlier) ∨
      (after = [] ∧ ∃ now, act.Opens now c (empty.run acts)) := by
  constructor
  · rintro ⟨before, first, now, he, hopens⟩
    rcases List.eq_nil_or_concat after with rfl | ⟨earlier, last, rfl⟩
    · obtain ⟨rfl, hlast⟩ := List.append_inj' he rfl
      obtain rfl := List.singleton_inj.mp hlast
      exact .inr ⟨rfl, now, hopens⟩
    · rw [List.concat_eq_append, ← List.cons_append, ← List.append_assoc] at he
      obtain ⟨rfl, hlast⟩ := List.append_inj' he rfl
      obtain rfl := List.singleton_inj.mp hlast
      exact .inl ⟨earlier, List.concat_eq_append, before, first, now, rfl, hopens⟩
  · rintro (⟨earlier, rfl, before, first, now, rfl, hopens⟩ | ⟨rfl, now, hopens⟩)
    · exact ⟨before, first, now, by simp, hopens⟩
    · exact ⟨acts, act, now, rfl, hopens⟩

theorem underWay_concat :
    UnderWay (acts ++ [act]) c after ↔
      (∃ earlier, after = earlier ++ [act] ∧ UnderWay acts c earlier ∧
        ¬act.Ends c (empty.run acts)) ∨
      (after = [] ∧ act.started? (empty.run acts) = some (.inr c)) := by
  constructor
  · rintro ⟨before, first, he, hstarted, hwaits⟩
    rcases List.eq_nil_or_concat after with rfl | ⟨earlier, last, rfl⟩
    · obtain ⟨rfl, hlast⟩ := List.append_inj' he rfl
      obtain rfl := List.singleton_inj.mp hlast
      exact .inr ⟨rfl, hstarted⟩
    · rw [List.concat_eq_append, ← List.cons_append, ← List.append_assoc] at he
      obtain ⟨rfl, hlast⟩ := List.append_inj' he rfl
      obtain rfl := List.singleton_inj.mp hlast
      rw [List.concat_eq_append, waits_append] at hwaits
      have hrun : (empty.run (before ++ [first])).run earlier =
          empty.run (before ++ first :: earlier) := by
        rw [← run_append, List.append_assoc, List.singleton_append]
      rw [hrun] at hwaits
      exact .inl ⟨earlier, List.concat_eq_append, ⟨before, first, rfl, hstarted, hwaits.1⟩,
        hwaits.2.1⟩
  · rintro (⟨earlier, rfl, ⟨before, first, rfl, hstarted, hwaits⟩, hends⟩ | ⟨rfl, hstarted⟩)
    · refine ⟨before, first, by simp, hstarted, waits_append.mpr ⟨hwaits, ?_, trivial⟩⟩
      rwa [← run_append, List.append_assoc, List.singleton_append]
    · exact ⟨acts, act, rfl, hstarted, trivial⟩

theorem queued_concat :
    Queued (acts ++ [act]) c ↔ Queued acts c ∨
      ∃ x frame, (empty.run (acts ++ [act])).sessions.get? c.session = some x ∧
        frame ∈ x.outbox.frames ∧ frame.id = c.id := by
  constructor
  · rintro ⟨early, late, x, frame, he, hframe⟩
    rcases List.eq_nil_or_concat late with rfl | ⟨mid, last, rfl⟩
    · rw [List.append_nil] at he
      exact .inr ⟨x, frame, he ▸ hframe⟩
    · rw [List.concat_eq_append, ← List.append_assoc] at he
      exact .inl ⟨early, mid, x, frame, (List.append_inj' he rfl).1, hframe⟩
  · rintro (⟨early, late, x, frame, rfl, hframe⟩ | ⟨x, frame, hframe⟩)
    · exact ⟨early, late ++ [act], x, frame, by simp, hframe⟩
    · exact ⟨acts ++ [act], [], x, frame, by simp, hframe⟩

/-! ### The beginning of a call -/

/-- What the beginning of a call shows is what a first look at it comes to. -/
theorem started?_of_opens (h : act.Opens now c r) :
    ∃ x y, r.sessions.get? c.session = some x ∧ Call.startOn c.errand x = (some c.id, y) ∧
      r.target act = some c.session ∧
      act.deeds x = Call.beginActs now c.deadline c.errand x ∧
      act.started? r = some
        (match c.verdict now (Call.look c.id y).1 with
         | .ended outcome => .inl outcome
         | .underWay => .inr c) := by
  obtain ⟨hact, x, hx, hid⟩ := h
  have hstart : Call.startOn c.errand x = (some c.id, (Call.startOn c.errand x).2) :=
    Prod.ext hid rfl
  have hbegin : (Call.beginOn now c.deadline c.session c.errand r).1 =
      match c.verdict now (Call.look c.id (Call.startOn c.errand x).2).1 with
      | .ended outcome => .inl outcome
      | .underWay => .inr c := by
    rw [Call.beginOn, onSession_of_some _ _ hx, hstart]
    have hpoll := Call.poll_eq now c
      { r with sessions := r.sessions.set c.session (Call.startOn c.errand x).2 }
    rw [Table.get?_set_self, Option.elim_some] at hpoll
    simp only [hpoll]
    cases c.verdict now (Call.look c.id (Call.startOn c.errand x).2).1 <;> rfl
  refine ⟨x, _, hx, hstart, ?_⟩
  rcases hact with rfl | ⟨rfl, hfirst⟩
  · exact ⟨rfl, rfl, congrArg some hbegin⟩
  · refine ⟨hfirst, rfl, ?_⟩
    rw [Act.started?, begin_of_first _ _ _ hfirst, hbegin]

theorem opens_of_started? (h : act.started? r = some (.inr c)) : ∃ now, act.Opens now c r := by
  have hbeginOn : ∀ now deadline s errand,
      (Call.beginOn now deadline s errand r).1 = .inr c →
      s = c.session ∧ errand = c.errand ∧ deadline = c.deadline ∧
        ∃ x, r.sessions.get? c.session = some x ∧ (Call.startOn c.errand x).1 = some c.id := by
    intro now deadline s errand hbegin
    obtain ⟨x, y, hx, hstart, hc⟩ := Call.beginOn_inr hbegin
    obtain rfl : c.session = s := congrArg Call.session hc
    obtain rfl : c.errand = errand := congrArg Call.errand hc
    exact ⟨rfl, rfl, (congrArg Call.deadline hc).symm, x, hx, congrArg Prod.fst hstart⟩
  cases act with
  | call s now deadline errand =>
    obtain ⟨rfl, rfl, rfl, hx⟩ := hbeginOn _ _ _ _ (Option.some.inj h)
    exact ⟨now, .inl rfl, hx⟩
  | route now deadline errand =>
    have h : (Call.begin now deadline errand r).1 = .inr c := Option.some.inj h
    cases hfirst : r.first with
    | none =>
      rw [Call.begin, hfirst] at h
      cases h
    | some s =>
      rw [begin_of_first _ _ _ hfirst] at h
      obtain ⟨rfl, rfl, rfl, hx⟩ := hbeginOn _ _ _ _ h
      exact ⟨now, .inr ⟨rfl, hfirst⟩, hx⟩
  | _ => cases h

theorem next_le_run (x : Exchange) (es : List Exchange.Act) : x.next ≤ (x.run es).next := by
  induction es generalizing x with
  | nil => exact Nat.le_refl _
  | cons e es ih => exact Nat.le_trans (Exchange.next_le_step x e) (ih _)

theorem exists_run {early : List Act} {t : Nat} {x : Exchange}
    (hx : (empty.run early).sessions.get? t = some x) (late : List Act) :
    ∃ es, (empty.run (early ++ late)).sessions.get? t = some (x.run es) := by
  rw [run_append]
  exact ⟨_, get?_run (sound_run sound_empty early) late hx⟩

/-- What the start of a call leaves of its exchange. -/
theorem startOn_eq {x y : Exchange} {errand : Errand} {id : Nat}
    (h : Call.startOn errand x = (some id, y)) :
    x.closed = false ∧ x.next = id ∧ y.next = id + 1 ∧
      y = (x.start errand.method errand.params).2.2 := by
  have hid : (x.start errand.method errand.params).1 = some id := congrArg Prod.fst h
  have hy : (x.start errand.method errand.params).2.2 = y := congrArg Prod.snd h
  cases hc : x.closed with
  | true =>
    rw [x.start_of_closed _ _ hc] at hid
    cases hid
  | false =>
    have hnext := x.next_start errand.method errand.params
    rw [x.start_of_open _ _ hc] at hid
    have hid : x.next = id := Option.some.inj hid
    rw [hy, hc, hid, if_neg Bool.false_ne_true] at hnext
    exact ⟨rfl, hid, hnext, hy.symm⟩

theorem run_beginActs {x y : Exchange} {errand : Errand} {id now deadline : Nat}
    (h : Call.startOn errand x = (some id, y)) :
    x.run (Call.beginActs now deadline errand x) = y.run (Call.lookActs now deadline id y) := by
  have hy : x.step (.start errand.method errand.params) = y := congrArg Prod.snd h
  simp only [Call.beginActs, h, Exchange.run, List.foldl_cons, hy]

/-- The ids of a session rise beyond that of a call that was begun. -/
theorem Begun.lt_next (h : Begun acts c after) :
    ∃ x, (empty.run acts).sessions.get? c.session = some x ∧ c.id < x.next := by
  obtain ⟨before, act, now, rfl, hopens⟩ := h
  obtain ⟨x, y, hx, hstart, htarget, hdeeds, -⟩ := started?_of_opens hopens
  have hstep : (empty.run (before ++ [act])).sessions.get? c.session =
      some (y.run (Call.lookActs now c.deadline c.id y)) := by
    rcases exists_step (grown_run before) act hx with ⟨-, he⟩ | ⟨hno, -⟩
    · rw [run_append, ← run_beginActs hstart, ← hdeeds]
      exact he
    · exact absurd htarget hno
  obtain ⟨es, hrun⟩ := exists_run hstep after
  rw [List.append_assoc, List.singleton_append] at hrun
  refine ⟨_, hrun, ?_⟩
  obtain ⟨-, -, hnext, -⟩ := startOn_eq hstart
  have h₁ := next_le_run y (Call.lookActs now c.deadline c.id y)
  have h₂ := next_le_run (y.run (Call.lookActs now c.deadline c.id y)) es
  omega

/-- An id that is given is one that no call has had. -/
theorem Begun.not_opens {d : Call} (h : Begun acts c after) (hsession : c.session = d.session)
    (hid : c.id = d.id) : ¬act.Opens now d (empty.run acts) := by
  intro hopens
  obtain ⟨x, hx, hlt⟩ := h.lt_next
  obtain ⟨x', y, hx', hstart, -⟩ := started?_of_opens hopens
  obtain ⟨-, hnext, -⟩ := startOn_eq hstart
  rw [hsession, hx'] at hx
  cases hx
  omega

/-- No two calls have an id on the same session. -/
theorem begun_unique {d : Call} {since : List Act} (hc : Begun acts c after)
    (hd : Begun acts d since) (hsession : c.session = d.session) (hid : c.id = d.id) : c = d := by
  induction acts using List.reverseRecOn generalizing after since with
  | nil =>
    obtain ⟨before, act, now, h, -⟩ := hc
    cases before <;> cases h
  | append_singleton acts act ih =>
    rcases begun_concat.mp hc with ⟨early, -, hold⟩ | ⟨-, now, hopens⟩ <;>
      rcases begun_concat.mp hd with ⟨early', -, hold'⟩ | ⟨-, now', hopens'⟩
    · exact ih hold hold'
    · exact absurd hopens' (hold.not_opens hsession hid)
    · exact absurd hopens (hold'.not_opens hsession.symm hid.symm)
    · -- both are begun by the last act, which tells the rest of them
      obtain ⟨session, id, errand, deadline⟩ := c
      obtain ⟨session', id', errand', deadline'⟩ := d
      obtain rfl : session = session' := hsession
      obtain rfl : id = id' := hid
      rcases hopens.1 with rfl | ⟨rfl, -⟩ <;> rcases hopens'.1 with he | ⟨he, -⟩ <;> cases he <;> rfl

/-! ### Where a call stands -/

/-- Where a call stands on its session that was begun: under way, and told what was said since, or
over. -/
def Stands (acts : List Act) (c : Call) (after : List Act) : Prop :=
  ∃ x, (empty.run acts).sessions.get? c.session = some x ∧ c.id < x.next ∧
    ((UnderWay acts c after ∧ StandsAt c.id (c.told after) x ∧
        (.shut c.session ∉ after → x.outbox.taken = true) ∧ (Queued acts c → Posted c.id x)) ∨
      (¬UnderWay acts c after ∧ Absent c.id x))

theorem UnderWay.begun (h : UnderWay acts c after) : Begun acts c after := by
  obtain ⟨before, act, he, hstarted, -⟩ := h
  obtain ⟨now, hopens⟩ := opens_of_started? hstarted
  exact ⟨before, act, now, he, hopens⟩

theorem not_shut_mem_lookActs (now deadline id : Nat) (x : Exchange) :
    .shut ∉ Call.lookActs now deadline id x := by
  intro h
  rcases Call.mem_lookActs h with h | h <;> cases h

/-- An id that is yet to be given is on no frame. -/
theorem not_queued_of_opens (h : act.Opens now c (empty.run acts)) : ¬Queued acts c := by
  rintro ⟨early, late, x, frame, rfl, hx, hframe, hid⟩
  obtain ⟨es, hrun⟩ := exists_run hx late
  obtain ⟨x', y, hx', hstart, -⟩ := started?_of_opens h
  obtain ⟨-, hnext, -⟩ := startOn_eq hstart
  have hgiven := ((grown_run early).framed hx).given frame hframe
  have hle := next_le_run x es
  rw [hrun] at hx'
  cases hx'
  omega

/-- A call that has just been begun. -/
theorem stands_of_opens (h : act.Opens now c (empty.run acts)) : Stands (acts ++ [act]) c [] := by
  obtain ⟨x, y, hx, hstart, htarget, hdeeds, hstarted⟩ := started?_of_opens h
  obtain ⟨hopen, hid, hnext, hy⟩ := startOn_eq hstart
  have hgrown := grown_run (acts ++ [act])
  have hrun : (empty.run (acts ++ [act])).sessions.get? c.session =
      some (y.run (Call.lookActs now c.deadline c.id y)) := by
    rcases exists_step (grown_run acts) act hx with ⟨-, he⟩ | ⟨hno, -⟩
    · rw [run_append, ← run_beginActs hstart, ← hdeeds]
      exact he
    · exact absurd htarget hno
  have hunder : UnderWay (acts ++ [act]) c [] ↔
      c.verdict now (Call.look c.id y).1 = .underWay := by
    rw [underWay_concat, hstarted]
    cases c.verdict now (Call.look c.id y).1 <;> simp
  have hle := next_le_run y (Call.lookActs now c.deadline c.id y)
  refine ⟨_, hrun, by omega, ?_⟩
  rw [hunder]
  have hcases := Exchange.standsAt_start x c.errand.method c.errand.params hopen
  rw [← hy, hid] at hcases
  rcases hcases with ⟨-, habsent⟩ | ⟨hover, hstands⟩
  · -- a call that is over at once is not there to be looked at
    refine .inr ⟨?_, Exchange.absent_run habsent (by omega) _⟩
    have hpoll := y.poll_of_none c.id habsent.1
    rw [Call.verdict_underWay, Call.look, hpoll]
    rintro ⟨hno, -⟩
    cases hno
  · rcases Call.standsAt_lookActs hstands now with ⟨hv, hlast⟩ | ⟨hv, hgone⟩
    · refine .inl ⟨hv, hlast, fun _ => ?_, fun hqueued => ?_⟩
      · rw [Exchange.taken_run (not_shut_mem_lookActs _ _ _ _)]
        rw [x.start_of_open _ _ hopen] at hover hy
        rcases (x.enlist c.errand.method c.errand.params).trySend_cases x.next
          ⟨⟨x.next, c.errand.method, c.errand.params⟩, false, .awaited⟩
          with ⟨-, he⟩ | ⟨ht, -, -⟩ | ⟨ht, -, -⟩
        · rw [he] at hover
          cases hover
        · rw [hy]
          exact (Exchange.taken_trySend _ _).trans ht
        · rw [hy]
          exact (Exchange.taken_trySend _ _).trans ht
      · rcases queued_concat.mp hqueued with hold | ⟨z, frame, hz, hframe, hfid⟩
        · exact absurd hold (not_queued_of_opens h)
        · rw [hrun] at hz
          cases hz
          exact Exchange.posted_of_frame (hgrown.framed hrun) hlast hframe hfid
    · exact .inr ⟨hv, hgone⟩

/-- An act that does not end a call brings it where it says. -/
theorem standsAt_act {x : Exchange} {reply : Reply} (hr : Grown r)
    (hx : r.sessions.get? c.session = some x) (h : StandsAt c.id reply x) (hends : ¬act.Ends c r)
    (hother : ∀ d, (act = .cancel d ∨ ∃ t, act = .look t d) → d.session = c.session →
      d.id = c.id → d = c) :
    ∃ es, (r.step act).sessions.get? c.session = some (x.run es) ∧
      (act ≠ .shut c.session → .shut ∉ es) ∧
      StandsAt c.id ((c.heard? act).elim reply (hear c.id reply)) (x.run es) := by
  rcases exists_step hr act hx with ⟨htarget, hstep⟩ | ⟨htarget, hstep⟩
  · refine ⟨act.deeds x, hstep, ?_⟩
    cases act with
    | register => cases htarget
    | remove s =>
      have hs : s = c.session := by
        simp only [target] at htarget
        split at htarget
        · exact Option.some.inj htarget
        · cases htarget
      rw [Call.heard?, if_pos hs]
      exact ⟨fun _ => by simp [Act.deeds], Exchange.standsAt_close h⟩
    | route now deadline errand | call s now deadline errand =>
      -- the new call has another id
      have hshut : .shut ∉ Call.beginActs now deadline errand x := by
        intro hmem
        rcases Call.mem_beginActs hmem with he | ⟨id, he | he⟩ <;> cases he
      refine ⟨fun _ => hshut, ?_⟩
      cases hstart : Call.startOn errand x with
      | mk id y =>
        have hy : x.step (.start errand.method errand.params) = y := congrArg Prod.snd hstart
        have hne : c.id ≠ x.next := by
          obtain ⟨call, hcall, -⟩ := h.1
          intro hid
          rw [((hr.sound hx).unborn c.id (Nat.le_of_eq hid.symm)).1] at hcall
          cases hcall
        have hstarted : Exchange.Agrees c.id x y := hy ▸ Exchange.agrees_start _ _ hne
        cases id with
        | none =>
          have hrun : x.run (Call.beginActs now deadline errand x) = y := by
            simp only [Call.beginActs, hstart, Exchange.run, List.foldl_cons, List.foldl_nil, hy]
          show StandsAt c.id reply (x.run (Call.beginActs now deadline errand x))
          rw [hrun]
          exact h.of_agrees hstarted
        | some id =>
          obtain ⟨-, hid, -⟩ := startOn_eq hstart
          show StandsAt c.id reply (x.run (Call.beginActs now deadline errand x))
          rw [run_beginActs hstart]
          exact h.of_agrees (hstarted.trans (Call.agrees_lookActs (hid ▸ hne) _ _ _))
    | look now d =>
      have hsession : d.session = c.session := Option.some.inj htarget
      refine ⟨fun _ => not_shut_mem_lookActs _ _ _ _, ?_⟩
      by_cases hid : d.id = c.id
      · obtain rfl := hother d (.inr ⟨now, rfl⟩) hsession hid
        rcases Call.standsAt_lookActs h now with ⟨-, hlast⟩ | ⟨hv, -⟩
        · exact hlast
        · -- a look that does not show the call under way ends it
          refine absurd ?_ hends
          cases hverdict : d.verdict now (Call.look d.id x).1 with
          | underWay => exact absurd hverdict hv
          | ended outcome =>
            refine .inr ⟨now, outcome, rfl, ?_⟩
            rw [Call.poll_eq, hx]
            exact hverdict
      · exact h.of_agrees (Call.agrees_lookActs (Ne.symm hid) _ _ _)
    | cancel d =>
      have hsession : d.session = c.session := Option.some.inj htarget
      refine ⟨fun _ => by simp [Act.deeds], ?_⟩
      by_cases hid : d.id = c.id
      · obtain rfl := hother d (.inl rfl) hsession hid
        exact absurd (.inl rfl) hends
      · exact h.of_agrees (Exchange.agrees_drop (Ne.symm hid))
    | inbound s text =>
      have hs : s = c.session := Option.some.inj htarget
      rw [Call.heard?, if_pos hs]
      exact ⟨fun _ => by simp [Act.deeds], Exchange.standsAt_receive h text⟩
    | take => exact ⟨fun _ => by simp [Act.deeds], h.of_agrees (Exchange.Agrees.refl _ _)⟩
    | shut s =>
      have hs : s = c.session := Option.some.inj htarget
      exact ⟨fun hne => absurd (congrArg Act.shut hs) hne, h.of_agrees (Exchange.Agrees.refl _ _)⟩
  · refine ⟨[], hstep, fun _ => List.not_mem_nil, ?_⟩
    have hsame : (c.heard? act).elim reply (hear c.id reply) = reply := by
      cases act with
      | inbound s text =>
        have hs : s ≠ c.session := fun hs => htarget (congrArg some hs)
        rw [Call.heard?, if_neg hs]
        rfl
      | remove s =>
        by_cases hs : s = c.session
        · -- the session was detached before, so nobody on it awaits anything
          subst hs
          have hdetached : c.session ∉ r.attached := by
            intro hmem
            rw [target, if_pos hmem] at htarget
            exact htarget rfl
          have hreply : reply ≠ .awaited := by
            intro ha
            have hslot := h.2.mpr ha
            rw [hr.slots_eq_nil hx hdetached] at hslot
            cases hslot
          rw [Call.heard?, if_pos rfl]
          exact Exchange.hear_of_ne_awaited hreply _
        · rw [Call.heard?, if_neg hs]
          rfl
      | _ => rfl
    rw [hsame]
    exact h

/-- An act that ends a call leaves nothing of it on its exchange. -/
theorem absent_of_ends {x : Exchange} {reply : Reply} (hr : Grown r)
    (hx : r.sessions.get? c.session = some x) (h : StandsAt c.id reply x) (hends : act.Ends c r) :
    ∃ es, (r.step act).sessions.get? c.session = some (x.run es) ∧ Absent c.id (x.run es) := by
  have htarget : r.target act = some c.session := by
    rcases hends with rfl | ⟨now, outcome, rfl, -⟩ <;> rfl
  rcases exists_step hr act hx with ⟨-, hstep⟩ | ⟨hno, -⟩
  · refine ⟨act.deeds x, hstep, ?_⟩
    rcases hends with rfl | ⟨now, outcome, rfl, hended⟩
    · obtain ⟨call, hcall, -⟩ := h.1
      exact Exchange.absent_drop hcall
    · rw [Call.poll_eq, hx, Option.elim_some] at hended
      rcases Call.standsAt_lookActs h now with ⟨hv, -⟩ | ⟨-, hgone⟩
      · have hboth : Fate.underWay = .ended outcome := hv.symm.trans hended
        cases hboth
      · exact hgone
  · exact absurd htarget hno

theorem told_concat (c : Call) (acts : List Act) (act : Act) :
    c.told (acts ++ [act]) = (c.heard? act).elim (c.told acts) (hear c.id (c.told acts)) := by
  unfold Call.told
  rw [List.filterMap_append]
  cases h : c.heard? act <;> simp [h, Exchange.told, List.foldl_append]

theorem stands_concat {earlier : List Act} (hact : act.Timely now acts)
    (hbegun : Begun acts c earlier) (h : Stands acts c earlier) :
    Stands (acts ++ [act]) c (earlier ++ [act]) := by
  obtain ⟨x, hx, hid, hcases⟩ := h
  have hgrown := grown_run acts
  have hunder : UnderWay (acts ++ [act]) c (earlier ++ [act]) ↔
      UnderWay acts c earlier ∧ ¬act.Ends c (empty.run acts) := by
    rw [underWay_concat]
    constructor
    · rintro (⟨earlier', he, hw⟩ | ⟨he, -⟩)
      · rw [(List.append_inj' he rfl).1]
        exact hw
      · simp at he
    · exact fun hw => .inl ⟨earlier, rfl, hw⟩
  have hrun : (empty.run (acts ++ [act])) = (empty.run acts).step act := run_append acts [act] empty
  have hnext : ∀ es, c.id < (x.run es).next := fun es => Nat.lt_of_lt_of_le hid (next_le_run x es)
  unfold Stands
  rw [hrun, hunder]
  rcases hcases with ⟨hw, hstands, htaken, hposted⟩ | ⟨hno, habsent⟩
  · by_cases hends : act.Ends c (empty.run acts)
    · obtain ⟨es, hstep, hgone⟩ := absent_of_ends hgrown hx hstands hends
      exact ⟨_, hstep, hnext es, .inr ⟨fun h => h.2 hends, hgone⟩⟩
    · have hother : ∀ d, (act = .cancel d ∨ ∃ t, act = .look t d) → d.session = c.session →
          d.id = c.id → d = c := by
        intro d hd hsession hdid
        have hdw : ∃ since, UnderWay acts d since := by
          rcases hd with rfl | ⟨t, rfl⟩
          · exact hact
          · exact hact.2
        obtain ⟨since, hdw⟩ := hdw
        exact begun_unique hdw.begun hbegun hsession hdid
      obtain ⟨es, hstep, hshut, hlast⟩ := standsAt_act hgrown hx hstands hends hother
      refine ⟨_, hstep, hnext es, .inl ⟨⟨hw, hends⟩, told_concat c earlier act ▸ hlast, ?_, ?_⟩⟩
      · intro hmem
        rw [List.mem_append, List.mem_singleton, not_or] at hmem
        rw [Exchange.taken_run (hshut (Ne.symm hmem.2))]
        exact htaken hmem.1
      · intro hqueued
        rcases queued_concat.mp hqueued with hold | ⟨z, frame, hz, hframe, hfid⟩
        · exact Exchange.posted_run_of_standsAt (hgrown.sound hx) hid (hposted hold) es hlast
        · rw [hrun, hstep] at hz
          cases hz
          exact Exchange.posted_of_frame ((grown_step hgrown act).framed hstep) hlast hframe hfid
  · rcases exists_step hgrown act hx with ⟨-, hstep⟩ | ⟨-, hstep⟩
    · exact ⟨_, hstep, hnext _, .inr ⟨fun h => hno h.1, Exchange.absent_run habsent hid _⟩⟩
    · exact ⟨_, hstep, hid, .inr ⟨fun h => hno h.1, habsent⟩⟩

theorem Clocked.stands (h : Clocked now acts) (hbegun : Begun acts c after) :
    Stands acts c after := by
  induction h generalizing after with
  | start =>
    obtain ⟨before, act, now, he, -⟩ := hbegun
    cases before <;> cases he
  | act h hact ih =>
    rcases begun_concat.mp hbegun with ⟨earlier, rfl, hold⟩ | ⟨rfl, now, hopens⟩
    · exact stands_concat hact hold (ih hold)
    · exact stands_of_opens hopens
  | pass h hle hdue ih => exact ih hbegun

/-! ### Calls under way -/

/-- Nothing answers a call, and its launcher stays attached. -/
theorem told_eq_awaited (hanswer : ∀ text, .inbound c.session text ∈ after →
    answerTo? c.id text = none) (hremove : .remove c.session ∉ after) : c.told after = .awaited := by
  induction after using List.reverseRecOn with
  | nil => rfl
  | append_singleton after act ih =>
    rw [List.mem_append, List.mem_singleton, not_or] at hremove
    rw [told_concat, ih (fun text h => hanswer text (List.mem_append_left _ h)) hremove.1]
    cases act with
    | inbound s text =>
      by_cases hs : s = c.session
      · subst hs
        have hno := hanswer text (List.mem_append_right _ List.mem_cons_self)
        simp [Call.heard?, hear, hno]
      · simp [Call.heard?, hs]
    | remove s =>
      have hs : s ≠ c.session := fun hs => hremove.2 (by rw [hs])
      simp [Call.heard?, hs]
    | _ => rfl

/-- A call that was fed a response does not await one. -/
theorem told_ne_awaited {text : String} {response : Exchange.Response}
    (hmem : .inbound c.session text ∈ after) (hanswer : answerTo? c.id text = some response) :
    c.told after ≠ .awaited := by
  induction after using List.reverseRecOn with
  | nil => cases hmem
  | append_singleton after act ih =>
    rw [told_concat]
    by_cases hawaited : c.told after = .awaited
    · rcases List.mem_append.mp hmem with hmem | hmem
      · exact absurd hawaited (ih hmem)
      · rw [← List.mem_singleton.mp hmem, hawaited]
        simp [Call.heard?, hear, hanswer]
    · cases c.heard? act with
      | none => exact hawaited
      | some e =>
        rw [Option.elim_some, Exchange.hear_of_ne_awaited hawaited]
        exact hawaited

theorem poll_fst {x : Exchange} (hx : r.sessions.get? c.session = some x) (t : Nat) :
    (c.poll t r).1 = c.verdict t (Call.look c.id x).1 := by
  rw [Call.poll_eq, hx]
  rfl

/-- Where a call stands that is under way. -/
theorem Clocked.standsAt (h : Clocked now acts) (hw : UnderWay acts c after) :
    ∃ x, (empty.run acts).sessions.get? c.session = some x ∧ StandsAt c.id (c.told after) x ∧
      (.shut c.session ∉ after → x.outbox.taken = true) ∧ (Queued acts c → Posted c.id x) := by
  obtain ⟨x, hx, -, ⟨-, hstands⟩ | ⟨hno, -⟩⟩ := h.stands hw.begun
  · exact ⟨x, hx, hstands⟩
  · exact absurd hw hno

/-- A call that was fed its response ends with it at the next look, once its frame has been queued. -/
theorem Clocked.poll_of_fed (h : Clocked now acts) (hw : UnderWay acts c after)
    (hqueued : Queued acts c) {response : Exchange.Response} (hfed : c.fed? after = some response)
    (t : Nat) : (c.poll t (empty.run acts)).1 = .ended (Call.conclude c.errand response) := by
  obtain ⟨x, hx, hstands, -, hposted⟩ := h.standsAt hw
  have htold : c.told after = .given response := (Exchange.told_eq_given_iff _).mpr hfed
  rw [htold] at hstands
  have hpoll := (Exchange.poll_of_given hstands).1 (hposted hqueued)
  rw [poll_fst hx, Call.look_of_over (by rw [hpoll]; rfl), hpoll]
  rfl

/-- It does not time out, whether it was fed its response before the launcher was detached or
after. -/
theorem Clocked.poll_ne_timeout (h : Clocked now acts) (hw : UnderWay acts c after)
    (hqueued : Queued acts c) {text : String} {response : Exchange.Response}
    (hmem : .inbound c.session text ∈ after) (hanswer : answerTo? c.id text = some response)
    (t : Nat) : (c.poll t (empty.run acts)).1 ≠ .ended (.error .timeout) := by
  obtain ⟨x, hx, hstands, -, hposted⟩ := h.standsAt hw
  cases htold : c.told after with
  | awaited => exact absurd htold (told_ne_awaited hmem hanswer)
  | given response' =>
    have hfed : c.fed? after = some response' := (Exchange.told_eq_given_iff _).mp htold
    rw [h.poll_of_fed hw hqueued hfed]
    intro he
    injection he with he
    exact Call.conclude_ne_timeout _ _ he
  | released =>
    rw [htold] at hstands
    have hpoll : (x.poll c.id).1 = .failed .closed := by
      rcases Exchange.poll_of_released hstands with ⟨he, -⟩ | ⟨-, hno, -⟩
      · exact he
      · exact absurd (hposted hqueued) hno
    rw [poll_fst hx, Call.look_of_over (by rw [hpoll]; rfl), hpoll]
    intro he
    injection he with he
    cases he

/-- A call that nothing has answered times out when its deadline has come, and goes on until then. -/
theorem Clocked.poll_of_silent (h : Clocked now acts) (hw : UnderWay acts c after)
    (hanswer : ∀ text, .inbound c.session text ∈ after → answerTo? c.id text = none)
    (hremove : .remove c.session ∉ after) (hshut : .shut c.session ∉ after) (t : Nat) :
    (c.poll t (empty.run acts)).1 =
      if c.deadline ≤ t then .ended (.error .timeout) else .underWay := by
  obtain ⟨x, hx, hstands, htaken, -⟩ := h.standsAt hw
  rw [told_eq_awaited hanswer hremove] at hstands
  rw [poll_fst hx, Call.verdict_of_not_over (Call.look_of_awaited hstands (htaken hshut))]

/-- A look at a call whose deadline has come ends it. -/
theorem exists_ended (c : Call) (r : Roster) {t : Nat} (ht : c.deadline ≤ t) :
    ∃ outcome, (c.poll t r).1 = .ended outcome := by
  cases hfate : (c.poll t r).1 with
  | ended outcome => exact ⟨outcome, rfl⟩
  | underWay =>
    rw [Call.poll_eq] at hfate
    have hlt := (Call.verdict_underWay.mp hfate).2
    omega

/-- A call is over at once whose deadline has come when it is begun. -/
theorem lt_deadline_of_started (hopens : act.Opens now c r)
    (h : act.started? r = some (.inr c)) : now < c.deadline := by
  obtain ⟨x, y, -, -, -, -, hstarted⟩ := started?_of_opens hopens
  rw [hstarted] at h
  cases hverdict : c.verdict now (Call.look c.id y).1 with
  | ended outcome =>
    rw [hverdict] at h
    cases h
  | underWay => exact (Call.verdict_underWay.mp hverdict).2

/-- Time does not pass the deadline of a call under way. -/
theorem Clocked.le_deadline (h : Clocked now acts) (hw : UnderWay acts c after) :
    now ≤ c.deadline := by
  induction h generalizing after with
  | start =>
    obtain ⟨before, act, he, -⟩ := hw
    cases before <;> cases he
  | @act now acts act h hact ih =>
    rcases underWay_concat.mp hw with ⟨earlier, -, hold, -⟩ | ⟨-, hstarted⟩
    · exact ih hold
    · obtain ⟨t, hopens⟩ := opens_of_started? hstarted
      have ht : t = now := by
        rcases hopens.1 with rfl | ⟨rfl, -⟩
        · exact hact
        · exact hact
      exact Nat.le_of_lt (ht ▸ lt_deadline_of_started hopens hstarted)
  | pass h hle hdue ih => exact hdue c after hw

/-! ### Calls that are over -/

/-- Nothing is left of a call that is over, and nothing comes back, whatever is done. -/
theorem Clocked.absent (h : Clocked now acts) (hbegun : Begun acts c after)
    (hover : ¬UnderWay acts c after) (later : List Act) :
    ∃ x, (empty.run (acts ++ later)).sessions.get? c.session = some x ∧ c.id < x.next ∧
      Absent c.id x := by
  obtain ⟨x, hx, hid, ⟨hw, -⟩ | ⟨-, habsent⟩⟩ := h.stands hbegun
  · exact absurd hw hover
  · obtain ⟨es, hrun⟩ := exists_run hx later
    exact ⟨_, hrun, Nat.lt_of_lt_of_le hid (next_le_run x es), Exchange.absent_run habsent hid es⟩

/-- A frame that had not been queued when its call was over is never queued. -/
theorem Clocked.not_queued (h : Clocked now acts) (hbegun : Begun acts c after)
    (hover : ¬UnderWay acts c after) (hqueued : ¬Queued acts c) (later : List Act) :
    ¬Queued (acts ++ later) c := by
  obtain ⟨x, hx, hid, habsent⟩ := h.absent hbegun hover []
  rw [List.append_nil] at hx
  have hun : Exchange.Unqueued c.id x := fun frame hframe hfid =>
    hqueued ⟨acts, [], x, frame, by simp, hx, hframe, hfid⟩
  have hgrown := grown_run acts
  induction later using List.reverseRecOn with
  | nil =>
    rw [List.append_nil]
    exact hqueued
  | append_singleton later act ih =>
    rw [← List.append_assoc, queued_concat]
    rintro (hold | ⟨z, frame, hz, hframe, hfid⟩)
    · exact ih hold
    · obtain ⟨es, hrun⟩ := exists_run hx (later ++ [act])
      rw [List.append_assoc, hrun] at hz
      cases hz
      exact Exchange.unqueued_run (hgrown.sound hx) (hgrown.framed hx) habsent hid hun es frame
        hframe hfid

theorem set_session_self {t : Nat} {x : Exchange} (hx : r.sessions.get? t = some x) :
    { r with sessions := r.sessions.set t x } = r := by
  have hset : r.sessions.set t x = r.sessions := by
    funext u
    by_cases hu : u = t
    · subst hu
      exact (if_pos rfl).trans hx.symm
    · exact if_neg hu
  rw [hset]

/-- A reply to a call without a slot makes no difference. -/
theorem step_inbound_of_absent {x : Exchange} (hx : r.sessions.get? c.session = some x)
    (habsent : Absent c.id x) {text : String} {response : Exchange.Response}
    (hanswer : answerTo? c.id text = some response) : r.step (.inbound c.session text) = r := by
  show r.modify c.session (Exchange.receive text) = r
  rw [modify_of_some _ hx, Exchange.receive_of_not_mem hanswer habsent.2, set_session_self hx]

end

end Roster

end NodeStack.Launcher
