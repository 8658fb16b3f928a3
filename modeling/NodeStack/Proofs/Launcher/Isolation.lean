import NodeStack.Proofs.Exchange.Matching
import NodeStack.Proofs.Launcher.Roster

/-!
# `NodeStack.Proofs.Launcher.Isolation`: sessions have nothing to do with each other

Every session numbers its calls from one, so the ids of calls on different sessions collide all the
time. What keeps the calls apart is that each session has an exchange of its own.

* `look_answered`: a look at a call shows a response only if its text was received on the exchange of
  the call since the call was begun.
* `Made`: a call that was begun in a run. `Made.began` places it on the exchange of its session, and
  `Made.ended` says how it can end.
* `Alike`: two rosters that say the same of a session. `alike_step` and `alike_run` keep it over two
  runs of the same acts, and `alike_of_session` gives it: an act that names another session makes no
  difference. Routed calls are the one thing that depends on who else is there, so `SameRoutes` asks
  that they reach the session in both runs or in neither.
* `sent_of_first`: a routed call sends its frame on the first session and leaves the others alone.
* `sessions_isolated`: all of it together.
-/

set_option autoImplicit false

namespace NodeStack

/-! ### Answers to a call -/

namespace Exchange

theorem exists_receive_of_firstAnswer {id : Nat} {acts : List Act} {r : Response}
    (h : firstAnswer id acts = some r) :
    ∃ text, .receive text ∈ acts ∧ answerTo? id text = some r := by
  induction acts with
  | nil => cases h
  | cons act rest ih =>
    have hlater : firstAnswer id rest = some r →
        ∃ text, .receive text ∈ act :: rest ∧ answerTo? id text = some r := by
      intro hrest
      obtain ⟨text, htext, hanswer⟩ := ih hrest
      exact ⟨text, List.mem_cons_of_mem _ htext, hanswer⟩
    cases act with
    | close => cases h  -- nothing is answered after the end
    | receive text =>
      rcases Option.or_eq_some_iff.mp h with hfirst | ⟨-, hrest⟩
      · exact ⟨text, List.mem_cons_self, hfirst⟩
      · exact hlater hrest
    | _ => exact hlater h

theorem poll_failed {x : Exchange} {id : Nat} {cause : Fault}
    (h : (x.poll id).1 = .failed cause) : cause = .closed := by
  cases hc : x.calls.get? id with
  | none =>
    rw [x.poll_of_none id hc] at h
    cases h
    rfl
  | some call =>
    rw [x.poll_of_some id hc] at h
    split at h
    · rcases x.pollSent_cases id call with ⟨-, he⟩ | ⟨r, -, he⟩ | ⟨-, he⟩ <;> rw [he] at h <;>
        cases h
      rfl
    · rcases x.trySend_cases id call with ⟨-, he⟩ | ⟨-, -, he⟩ | ⟨-, -, he⟩ <;> rw [he] at h <;>
        cases h
      rfl

end Exchange

namespace Launcher

open Exchange (answerTo? firstAnswer Began)

namespace Call

theorem look_cases (id : Nat) (x : Exchange) :
    look id x = x.poll id ∨
      ((x.poll id).1 = .sent ∧ look id x = (x.step (.poll id)).poll id) := by
  unfold look
  cases h : x.poll id with
  | mk progress y =>
    cases progress with
    | sent =>
      refine .inr ⟨rfl, ?_⟩
      show y.poll id = ((x.poll id).2).poll id
      rw [h]
    | _ => exact .inl rfl

theorem look_failed {id : Nat} {x : Exchange} {cause : Exchange.Fault}
    (h : (look id x).1 = .failed cause) : cause = .closed := by
  rcases look_cases id x with he | ⟨-, he⟩ <;> rw [he] at h <;> exact Exchange.poll_failed h

/-- A look at a call that shows a response shows one that was received since the call was begun. -/
theorem look_answered {x₀ x₁ : Exchange} {acts after : List Exchange.Act} {id : Nat}
    {first : Exchange.Progress} {response : Exchange.Response}
    (hbegan : Began x₀ acts id first x₁ after) (hx : x₀.Sound)
    (h : (look id (x₀.run acts)).1 = .answered response) :
    ∃ text, .receive text ∈ after ∧ answerTo? id text = some response := by
  rcases look_cases id (x₀.run acts) with he | ⟨-, he⟩
  · rw [he] at h
    exact Exchange.exists_receive_of_firstAnswer (hbegan.firstAnswer_of_answered hx h)
  · -- the second look is one at the exchange after one act more
    obtain ⟨before, method, params, rfl, hstart⟩ := hbegan
    have hmore : Began x₀ (before ++ .start method params :: (after ++ [.poll id])) id first x₁
        (after ++ [.poll id]) := ⟨before, method, params, rfl, hstart⟩
    have hrun : x₀.run (before ++ .start method params :: (after ++ [.poll id])) =
        (x₀.run (before ++ .start method params :: after)).step (.poll id) := by
      rw [← List.cons_append, ← List.append_assoc, Exchange.run_append]
      rfl
    rw [he, ← hrun] at h
    obtain ⟨text, htext, hanswer⟩ :=
      Exchange.exists_receive_of_firstAnswer (hmore.firstAnswer_of_answered hx h)
    refine ⟨text, ?_, hanswer⟩
    rcases List.mem_append.mp htext with htext | htext
    · exact htext
    · cases List.mem_singleton.mp htext

theorem verdict_ended {now : Nat} {c : Call} {progress : Exchange.Progress}
    {outcome : Except Fault Json} (h : c.verdict now progress = .ended outcome) :
    (∃ response, progress = .answered response ∧ outcome = conclude c.errand response) ∨
    (∃ cause, progress = .failed cause ∧ outcome = .error (.exchange cause)) ∨
    (outcome = .error .timeout ∧ c.deadline ≤ now) := by
  cases progress with
  | answered response =>
    cases h
    exact .inl ⟨response, rfl, rfl⟩
  | failed cause =>
    cases h
    exact .inr (.inl ⟨cause, rfl, rfl⟩)
  | blocked | sent | waiting =>
    simp only [verdict] at h
    split at h
    · next hdue =>
      cases h
      exact .inr (.inr ⟨rfl, hdue⟩)
    · cases h

/-- A call that ends at its start has no answer. -/
theorem beginOn_inl {now deadline session : Nat} {errand : Errand} {r : Roster} (hr : r.Sound)
    {outcome : Except Fault Json} (h : (beginOn now deadline session errand r).1 = .inl outcome) :
    outcome = .error (.exchange .closed) ∨ outcome = .error .timeout ∧ deadline ≤ now := by
  rcases beginOn_cases now deadline session errand r with he | ⟨x, id, y, hx, hstart, he⟩
  · rw [he] at h
    cases h
    exact .inl rfl
  · rw [he] at h
    cases hverdict : (Call.mk session id errand deadline).verdict now (look id y).1 with
    | underWay =>
      rw [hverdict] at h
      cases h
    | ended shown =>
      rw [hverdict] at h
      cases h
      rcases verdict_ended hverdict with ⟨response, hlook, -⟩ | ⟨cause, hlook, rfl⟩ | hdue
      · -- nothing can have been received yet
        have hid : (x.start errand.method errand.params).1 = some id := congrArg Prod.fst hstart
        have hy : (x.start errand.method errand.params).2.2 = y := congrArg Prod.snd hstart
        have hbegan : Began x [.start errand.method errand.params] id
            (x.start errand.method errand.params).2.1 y [] := by
          refine ⟨[], errand.method, errand.params, rfl, ?_⟩
          rw [← hid, ← hy]
          rfl
        have hrun : x.run [.start errand.method errand.params] = y := hy
        rw [← hrun] at hlook
        obtain ⟨text, htext, -⟩ := look_answered hbegan (hr.sound _ _ hx) hlook
        cases htext
      · rw [look_failed hlook]
        exact .inl rfl
      · exact .inr hdue

/-- A call that finds room in the outbox has its frame there at once, and waits for its answer. -/
theorem startOn_of_room {x : Exchange} (hopen : x.closed = false) (htaken : x.outbox.taken = true)
    (hroom : 0 < x.outbox.room) (errand : Errand) :
    ∃ y, startOn errand x = (some x.next, y) ∧
      y.outbox.frames = x.outbox.frames ++ [⟨x.next, errand.method, errand.params⟩] ∧
      y.calls.get? x.next = some ⟨⟨x.next, errand.method, errand.params⟩, true, .awaited⟩ := by
  have houtbox : (x.enlist errand.method errand.params).outbox =
      { x.outbox with room := x.outbox.room - 1, admitted := x.outbox.admitted ++ [x.next] } := by
    show (if x.outbox.taken then x.outbox.enter x.next else x.outbox) = _
    rw [htaken, if_pos rfl, Exchange.Outbox.enter, if_pos hroom]
  have hplace : (x.enlist errand.method errand.params).outbox.hasPlace x.next = true := by
    rw [houtbox, Exchange.Outbox.hasPlace, List.contains_iff_mem]
    exact List.mem_append_right _ List.mem_cons_self
  have hstart : startOn errand x = (some x.next, ((x.enlist errand.method errand.params).trySend
      x.next ⟨⟨x.next, errand.method, errand.params⟩, false, .awaited⟩).2) := by
    show ((x.start errand.method errand.params).1, (x.start errand.method errand.params).2.2) = _
    rw [x.start_of_open _ _ hopen]
  refine ⟨_, hstart, ?_⟩
  rcases (x.enlist errand.method errand.params).trySend_cases x.next
    ⟨⟨x.next, errand.method, errand.params⟩, false, .awaited⟩
    with ⟨hno, -⟩ | ⟨-, -, he⟩ | ⟨-, hno, -⟩
  · rw [houtbox] at hno
    exact absurd (hno.symm.trans htaken) Bool.false_ne_true
  · rw [he, houtbox]
    exact ⟨rfl, Table.get?_set_self _ _ _⟩
  · rw [hplace] at hno
    cases hno

/-- With room in the outbox, the start of a call puts its frame behind those that are there. -/
theorem frames_beginActs {x : Exchange} (hopen : x.closed = false)
    (htaken : x.outbox.taken = true) (hroom : 0 < x.outbox.room) (now deadline : Nat)
    (errand : Errand) : (x.run (beginActs now deadline errand x)).outbox.frames =
      x.outbox.frames ++ [⟨x.next, errand.method, errand.params⟩] := by
  obtain ⟨y, hstart, hframes, hcall⟩ := startOn_of_room hopen htaken hroom errand
  have hy : x.step (.start errand.method errand.params) = y := congrArg Prod.snd hstart
  have hrun : x.run (beginActs now deadline errand x) = y.run (lookActs now deadline x.next y) := by
    simp only [beginActs, hstart, Exchange.run, List.foldl_cons, hy]
  have hpoll : y.poll x.next = (.waiting, y) := by
    rw [y.poll_of_some x.next hcall, if_pos rfl]
    rfl
  have hlook : look x.next y = (.waiting, y) := by rw [look, hpoll]
  rw [hrun, run_lookActs, hlook, ← hframes]
  -- giving the call up again does not take its frame back
  split
  · simp only [Exchange.drop, hcall, if_true]
    rfl
  · rfl

/-- What a look at a call shows depends on its session alone. -/
theorem poll_congr {c : Call} {r r' : Roster}
    (h : r.sessions.get? c.session = r'.sessions.get? c.session) (now : Nat) :
    (c.poll now r).1 = (c.poll now r').1 := by
  rw [poll_eq, poll_eq, h]

end Call

namespace Roster

/-! ### Two rosters that say the same of a session -/

/-- Whether an act is a routed call. -/
def Act.isRouted : Act → Bool
  | .route .. => true
  | _ => false

/-- The routed calls among some acts reach a session in both of two runs, or in neither. -/
def SameRoutes (t : Nat) : List Act → Roster → Roster → Prop
  | [], _, _ => True
  | act :: rest, r, r' =>
    (act.isRouted = true → (r.first = some t ↔ r'.first = some t)) ∧
      SameRoutes t rest (r.step act) (r'.step act)

/-- Two rosters say the same of a session, and give the next one the same number. -/
structure Alike (t : Nat) (r r' : Roster) : Prop where
  session : r.sessions.get? t = r'.sessions.get? t
  attached : t ∈ r.attached ↔ t ∈ r'.attached
  count : r.count = r'.count

section
variable {r r' : Roster} {t : Nat}

/-- Only a routed call asks who else is there. -/
theorem Alike.target_iff (h : Alike t r r') {act : Act}
    (hact : act.isRouted = true → (r.first = some t ↔ r'.first = some t)) :
    r.target act = some t ↔ r'.target act = some t := by
  cases act with
  | route now deadline errand => exact hact rfl
  | remove s =>
    -- a removal reaches its session if that is attached, which is the same in both
    simp only [target]
    by_cases hs : s = t
    · subst hs
      by_cases hmem : s ∈ r.attached
      · rw [if_pos hmem, if_pos (h.attached.mp hmem)]
      · rw [if_neg hmem, if_neg fun h' => hmem (h.attached.mpr h')]
    · constructor <;> intro hsome <;> split at hsome <;> cases hsome <;> exact absurd rfl hs
  | register | call | look | cancel | inbound | take | shut => exact Iff.rfl

theorem alike_step (h : Alike t r r') {act : Act}
    (hact : act.isRouted = true → (r.first = some t ↔ r'.first = some t)) :
    Alike t (r.step act) (r'.step act) := by
  have hattached : t ∈ (r.step act).attached ↔ t ∈ (r'.step act).attached := by
    rw [mem_attached_step, mem_attached_step, h.attached, h.count]
  by_cases hnew : ∃ capacity, act = .register capacity
  · obtain ⟨capacity, rfl⟩ := hnew
    refine ⟨?_, hattached, congrArg (· + 1) h.count⟩
    rw [get?_register, get?_register, h.session, h.count]
  · have hnot : ∀ capacity, act ≠ .register capacity := fun capacity he => hnew ⟨capacity, he⟩
    refine ⟨?_, hattached, ?_⟩
    · rw [r.get?_step hnot, r'.get?_step hnot, h.session]
      simp only [h.target_iff hact]
    · rw [r.count_step hnot, r'.count_step hnot, h.count]

theorem alike_run (h : Alike t r r') {acts : List Act} (hacts : SameRoutes t acts r r') :
    Alike t (r.run acts) (r'.run acts) := by
  induction acts generalizing r r' with
  | nil => exact h
  | cons act rest ih => exact ih (alike_step h hacts.1) hacts.2

/-- An act that names a session does nothing to another. -/
theorem alike_of_session {act : Act} {s : Nat} (hact : act.session? = some s) (ht : t ≠ s) :
    Alike t (r.step act) r := by
  have hnot : ∀ capacity, act ≠ .register capacity := by
    rintro capacity rfl
    cases hact
  have htarget : r.target act ≠ some t := by
    intro htarget
    cases act with
    | register | route => cases hact
    | remove u =>
      cases hact
      simp only [target] at htarget
      split at htarget <;> cases htarget
      exact ht rfl
    | call | look | cancel | inbound | take | shut =>
      have hsame := htarget.symm.trans hact
      exact ht (Option.some.inj hsame)
  refine ⟨?_, ?_, r.count_step hnot⟩
  · rw [r.get?_step hnot, if_neg htarget]
  · rw [mem_attached_step]
    have hkept : act ≠ .remove t := by
      rintro rfl
      exact ht (Option.some.inj hact)
    simp [hnot, hkept]

end

/-! ### Calls in a run -/

/-- Some acts begin a call that is under way after its start, on the session it names or routed there;
and the acts since. -/
def Made (acts : List Act) (c : Call) (after : List Act) : Prop :=
  ∃ before now,
    (acts = before ++ .call c.session now c.deadline c.errand :: after ∧
      (Call.beginOn now c.deadline c.session c.errand (empty.run before)).1 = .inr c) ∨
    (acts = before ++ .route now c.deadline c.errand :: after ∧
      (Call.begin now c.deadline c.errand (empty.run before)).1 = .inr c)

theorem mem_deeds {t : Nat} {acts : List Act} {r : Roster} {text : String}
    (h : .receive text ∈ deeds t acts r) : .inbound t text ∈ acts := by
  induction acts generalizing r with
  | nil => cases h
  | cons act rest ih =>
    rcases List.mem_append.mp h with h | h
    · split at h
      · next htarget =>
        cases hx : r.sessions.get? t with
        | none =>
          rw [hx] at h
          cases h
        | some x =>
          rw [hx] at h
          obtain ⟨s, rfl⟩ := Act.eq_inbound_of_receive h
          cases htarget
          exact List.mem_cons_self
      · cases h
    · exact List.mem_cons_of_mem _ (ih h)

/-- A call that was made began on the exchange of its session, and all that was received there since
came from the launcher of that session. -/
theorem Made.began {acts after : List Act} {c : Call} (h : Made acts c after) :
    ∃ (x₀ x₁ : Exchange) (first : Exchange.Progress) (es later : List Exchange.Act),
      x₀.Sound ∧ Began x₀ es c.id first x₁ later ∧
      (empty.run acts).sessions.get? c.session = some (x₀.run es) ∧
      ∀ text, .receive text ∈ later → .inbound c.session text ∈ after := by
  obtain ⟨before, act, now, x, y, hacts, htarget, hdeeds, hx, hstart⟩ :
      ∃ before act now x y, acts = before ++ act :: after ∧
        (empty.run before).target act = some c.session ∧
        act.deeds x = Call.beginActs now c.deadline c.errand x ∧
        (empty.run before).sessions.get? c.session = some x ∧
        Call.startOn c.errand x = (some c.id, y) := by
    obtain ⟨before, now, ⟨hacts, hbegin⟩ | ⟨hacts, hbegin⟩⟩ := h
    · obtain ⟨x, y, hx, hstart, -⟩ := Call.beginOn_inr hbegin
      exact ⟨before, _, now, x, y, hacts, rfl, rfl, hx, hstart⟩
    · -- a routed call is begun on the first session, which is then the session of the call
      cases hfirst : (empty.run before).first with
      | none =>
        rw [Call.begin, hfirst] at hbegin
        cases hbegin
      | some s =>
        rw [Call.begin, hfirst] at hbegin
        obtain ⟨x, y, hx, hstart, hc⟩ := Call.beginOn_inr hbegin
        have hs : c.session = s := congrArg Call.session hc
        rw [← hs] at hx hfirst
        exact ⟨before, _, now, x, y, hacts, hfirst, rfl, hx, hstart⟩
  have hsound : Sound (empty.run before) := sound_run sound_empty before
  -- what has become of the session since: the deeds of the act, and those of the acts after it
  have hrun := get?_run hsound (act :: after) hx
  rw [← run_append, ← hacts, deeds, if_pos htarget, hx, Option.map_some, Option.getD_some, hdeeds,
    Call.beginActs, hstart] at hrun
  refine ⟨x, y, (x.start c.errand.method c.errand.params).2.1, _, _, hsound.sound _ _ hx,
    ⟨[], c.errand.method, c.errand.params, rfl, ?_⟩, hrun, ?_⟩
  · have hid : (x.start c.errand.method c.errand.params).1 = some c.id := congrArg Prod.fst hstart
    have hy : (x.start c.errand.method c.errand.params).2.2 = y := congrArg Prod.snd hstart
    rw [← hid, ← hy]
    rfl
  · intro text htext
    rcases List.mem_append.mp htext with htext | htext
    · rcases Call.mem_lookActs htext with h | h <;> cases h
    · exact mem_deeds htext

/-- A call that was made and has ended was answered by its own launcher, or has no answer. -/
theorem Made.ended {acts after : List Act} {c : Call} (h : Made acts c after) {now : Nat}
    {outcome : Except Fault Json} (hended : (c.poll now (empty.run acts)).1 = .ended outcome) :
    outcome = .error (.exchange .closed) ∨ (outcome = .error .timeout ∧ c.deadline ≤ now) ∨
      ∃ text response, .inbound c.session text ∈ after ∧ answerTo? c.id text = some response ∧
        outcome = Call.conclude c.errand response := by
  obtain ⟨x₀, x₁, first, es, later, hsound, hbegan, hget, hlater⟩ := h.began
  rw [Call.poll_eq, hget, Option.elim_some] at hended
  rcases Call.verdict_ended hended with ⟨response, hlook, rfl⟩ | ⟨cause, hlook, rfl⟩ | hdue
  · obtain ⟨text, htext, hanswer⟩ := Call.look_answered hbegan hsound hlook
    exact .inr (.inr ⟨text, response, hlater text htext, hanswer, rfl⟩)
  · rw [Call.look_failed hlook]
    exact .inl rfl
  · exact .inr (.inl hdue)

/-! ### Routed calls -/

section
variable {r : Roster} (now deadline : Nat) (errand : Errand)

theorem begin_noLauncher_iff (hr : r.Sound) :
    (Call.begin now deadline errand r).1 = .inl (.error .noLauncher) ↔ ∀ t, t ∉ r.attached := by
  rw [← List.eq_nil_iff_forall_not_mem, ← List.head?_eq_none_iff]
  show _ ↔ r.first = none
  rw [Call.begin]
  cases r.first with
  | none => exact iff_of_true rfl rfl
  | some s =>
    refine iff_of_false (fun h => ?_) (by simp)
    -- a call that ends on its session has another fault
    rcases Call.beginOn_inl hr h with h | ⟨h, -⟩ <;> cases h

theorem begin_of_first {s : Nat} (hfirst : r.first = some s) :
    Call.begin now deadline errand r = Call.beginOn now deadline s errand r := by
  rw [Call.begin, hfirst]

/-- The frame of a routed call goes to the first session, and nothing to any other. -/
theorem sent_of_first (hr : r.Sound) {s : Nat} (hfirst : r.first = some s) :
    (∃ x y, r.sessions.get? s = some x ∧
      (r.step (.route now deadline errand)).sessions.get? s = some y ∧
      (x.outbox.taken = true → 0 < x.outbox.room →
        y.outbox.frames = x.outbox.frames ++ [⟨x.next, errand.method, errand.params⟩])) ∧
    ∀ t, t ≠ s → (r.step (.route now deadline errand)).sessions.get? t = r.sessions.get? t := by
  obtain ⟨x, hx, hopen⟩ := hr.known s ((first_eq_some_iff hr).mp hfirst).1
  have hstep : ∀ t, (r.step (.route now deadline errand)).sessions.get? t =
      if r.first = some t then (r.sessions.get? t).map fun x =>
        x.run (Call.beginActs now deadline errand x) else r.sessions.get? t :=
    r.get?_step (by simp)
  refine ⟨⟨x, x.run (Call.beginActs now deadline errand x), hx, ?_, fun htaken hroom =>
    Call.frames_beginActs hopen htaken hroom now deadline errand⟩, ?_⟩
  · rw [hstep, if_pos hfirst, hx]
    rfl
  · intro t ht
    rw [hstep, if_neg]
    rw [hfirst, Option.some.injEq]
    exact ht.symm

end

/-! ### Sessions and calls -/

/-- Whatever happens to a roster, in whatever order:

* no number is given to two sessions;
* a routed call fails for want of a launcher exactly if no session was registered and not removed
  since. Otherwise it is begun on the one of them with the least number: its frame goes there, and
  no other session changes;
* a call that ends at its start has no answer, and one that ends later and was not given up has the
  answer of a text that came since from the launcher of its own session;
* an act that names a session, such as its removal or a text for it, changes no other session and
  the fate of no call there, at once or later, unless it has a call routed there that would have
  gone elsewhere, or the other way round. -/
theorem sessions_isolated (acts : List Act) :
    let r := empty.run acts
    (given acts empty).Pairwise (· < ·) ∧
    (∀ now deadline errand,
      ((Call.begin now deadline errand r).1 = .inl (.error .noLauncher) ↔
        ∀ t, ¬Present t acts empty) ∧
      ∀ s, Present s acts empty → (∀ t, Present t acts empty → s ≤ t) →
        Call.begin now deadline errand r = Call.beginOn now deadline s errand r ∧
        (∃ x y, r.sessions.get? s = some x ∧
          (r.step (.route now deadline errand)).sessions.get? s = some y ∧
          (x.outbox.taken = true → 0 < x.outbox.room →
            y.outbox.frames = x.outbox.frames ++ [⟨x.next, errand.method, errand.params⟩])) ∧
        ∀ t, t ≠ s →
          (r.step (.route now deadline errand)).sessions.get? t = r.sessions.get? t) ∧
    (∀ s now deadline errand outcome, (Call.beginOn now deadline s errand r).1 = .inl outcome →
      outcome = .error (.exchange .closed) ∨ outcome = .error .timeout ∧ deadline ≤ now) ∧
    (∀ c after, Made acts c after → ∀ now outcome, (c.poll now r).1 = .ended outcome →
      outcome = .error (.exchange .closed) ∨ (outcome = .error .timeout ∧ c.deadline ≤ now) ∨
      ∃ text response, .inbound c.session text ∈ after ∧ answerTo? c.id text = some response ∧
        outcome = Call.conclude c.errand response) ∧
    (∀ act s, act.session? = some s → ∀ t, t ≠ s →
      ∀ later, SameRoutes t later (r.step act) r →
        ((r.step act).run later).sessions.get? t = (r.run later).sessions.get? t ∧
        ∀ (c : Call) (now : Nat), c.session = t →
          (c.poll now ((r.step act).run later)).1 = (c.poll now (r.run later)).1) := by
  intro r
  have hr : r.Sound := sound_run sound_empty acts
  -- what the roster says of its sessions is put in terms of the acts by `mem_attached_run`
  refine ⟨given_pairwise acts empty, fun now deadline errand => ⟨?_, ?_⟩,
    fun s now deadline errand outcome h => Call.beginOn_inl hr h,
    fun c after hmade now outcome h => hmade.ended h, ?_⟩
  · rw [begin_noLauncher_iff now deadline errand hr]
    exact forall_congr' fun t => not_congr (mem_attached_run acts t)
  · intro s hpresent hleast
    have hfirst : r.first = some s := by
      rw [first_eq_some_iff hr]
      refine ⟨(mem_attached_run acts s).mpr hpresent, fun t ht => ?_⟩
      exact hleast t ((mem_attached_run acts t).mp ht)
    exact ⟨begin_of_first now deadline errand hfirst, sent_of_first now deadline errand hr hfirst⟩
  · intro act s hact t ht later hlater
    have halike := alike_run (alike_of_session (r := r) hact ht) hlater
    refine ⟨halike.session, ?_⟩
    rintro c now rfl
    exact Call.poll_congr halike.session now

/-- Two launchers have a call with the same id each. The answer of the second is for its own call, and
the first call goes on, also when the second launcher is gone. -/
theorem sessions_isolated_same_id :
    let since : List Act := [.call 2 0 10 .info, .inbound 2 "[1,null,null]"]
    let acts : List Act := .register 2 :: .register 2 :: .route 0 10 .info :: since
    let r := empty.run acts
    let c₁ : Call := ⟨1, 1, .info, 10⟩
    let c₂ : Call := ⟨2, 1, .info, 10⟩
    Made acts c₁ since ∧ Made acts c₂ [.inbound 2 "[1,null,null]"] ∧
    (c₂.poll 5 r).1 = .ended (.ok .null) ∧
    (∃ text response, .inbound 2 text ∈ [Act.inbound 2 "[1,null,null]"] ∧
      answerTo? 1 text = some response ∧ .ok .null = Call.conclude .info response) ∧
    (c₁.poll 5 r).1 = .underWay ∧ (c₁.poll 5 (r.step (.remove 2))).1 = .underWay := by
  intro since acts r c₁ c₂
  obtain ⟨-, -, -, hended, hisolated⟩ := sessions_isolated acts
  have hmade₁ : Made acts c₁ since := ⟨[.register 2, .register 2], 0, .inr ⟨rfl, rfl⟩⟩
  have hmade₂ : Made acts c₂ [.inbound 2 "[1,null,null]"] :=
    ⟨[.register 2, .register 2, .route 0 10 .info], 0, .inl ⟨rfl, rfl⟩⟩
  -- the text is read once, so that the rest computes without the reader
  have hanswer : answerTo? 1 "[1,null,null]" = some ⟨1, .null, .null⟩ := by cbv
  have hr : r = (empty.run [.register 2, .register 2, .route 0 10 .info, .call 2 0 10 .info]).modify
      2 (Exchange.answer ⟨1, .null, .null⟩) := by
    have hreceive : Exchange.receive "[1,null,null]" = Exchange.answer ⟨1, .null, .null⟩ :=
      funext fun _ => Exchange.receive_of_answer hanswer
    rw [← hreceive]
    rfl
  have hpoll₁ : (c₁.poll 5 r).1 = .underWay := by
    rw [hr]
    rfl
  have hpoll₂ : (c₂.poll 5 r).1 = .ended (.ok .null) := by
    rw [hr]
    rfl
  refine ⟨hmade₁, hmade₂, hpoll₂, ?_, hpoll₁, ?_⟩
  · rcases hended c₂ _ hmade₂ 5 _ hpoll₂ with h | ⟨h, -⟩ | h
    · cases h
    · cases h
    · exact h
  · have hsame := (hisolated (.remove 2) 2 rfl 1 (by decide) [] trivial).2 c₁ 5 rfl
    rw [run_nil, run_nil] at hsame
    rw [hsame]
    exact hpoll₁

end Roster

end Launcher

end NodeStack
