import NodeStack.Proofs.Stack.Statuses
import NodeStack.Scenario.World.Deeds

/-!
# `NodeStack.Proofs.Stack.Agreement`: the status of one service, and its entry in a round

The status of one service is found out on the spot, and a round has every computation in a task of its
own and awaits the tasks. Both give a computation the same time. They come to the same text whenever
the computation ends with one or has to be given up. They differ when it breaks down: a round catches
that and reports it, and on the spot nothing catches it, so the caller breaks down too.

* `Reading.follow`: one computation on a clock. `follow_ends`: what it comes to by the deadline.
* `World.await`: a deed on a clock, looked at again and again. `await_lookStatus` and
  `await_lookRound`: for the two deeds here this is `Reading.follow` and `Round.follow`.
* `status_agrees`: what one status and the round come to, for every conduct of the computations.
* `not_agrees_crash`: a service whose computation breaks down has an entry and no status.
-/

set_option autoImplicit false

namespace NodeStack.Stack

/-! ### One computation on a clock -/

/-- A computation on a clock: it is looked at after each of the things that go on meanwhile, until it
has ended or is given up. -/
def Reading.follow {α σ : Type} (poll : α → σ → Reading α × σ) (time : σ → Nat) (deadline : Nat) :
    List (σ → σ) → α → σ → (Nat × Ending) ⊕ (α × σ)
  | [], task, s => .inr (task, s)
  | f :: rest, task, s =>
    match Reading.look poll deadline (time (f s)) (.inl task) (f s) with
    | (.inl task, s) => Reading.follow poll time deadline rest task s
    | (.inr ending, s) => .inl (time s, ending)

/-- How a computation has ended that has time until `limit`. -/
def Conduct.endingAt (limit : Nat) (b : Conduct) : Ending := (b.endingBy limit).getD .late

theorem Conduct.endingBy_mono {b : Conduct} {now limit : Nat} {ending : Ending}
    (h : b.endingBy now = some ending) (hle : now ≤ limit) : b.endingBy limit = some ending := by
  cases b with
  | answers due status | crashes due message =>
    obtain ⟨hdue, he⟩ := Option.ite_none_right_eq_some.mp h
    exact Option.ite_none_right_eq_some.mpr ⟨Nat.le_trans hdue hle, he⟩
  | endless => cases h

theorem Conduct.report_endingAt (b : Conduct) (limit : Nat) :
    (b.endingAt limit).report = b.reportBy limit := by
  unfold endingAt
  cases h : b.endingBy limit with
  | some ending => exact report_of_endingBy (Nat.le_refl _) h
  | none => exact late_of_endingBy h

/-- A computation has broken down with a text just if that is its conduct. -/
theorem Conduct.endingAt_eq_crashed {b : Conduct} {limit : Nat} {message : Option String} :
    b.endingAt limit = .crashed message ↔ ∃ due, b = .crashes due message ∧ due ≤ limit := by
  cases b with
  | answers due status =>
    simp only [endingAt, endingBy]
    split <;> simp
  | crashes due text =>
    simp only [endingAt, endingBy]
    split
    · next hdue =>
      constructor
      · intro h
        cases h
        exact ⟨due, rfl, hdue⟩
      · rintro ⟨_, he, -⟩
        cases he
        rfl
    · next hdue =>
      constructor
      · intro h
        cases h
      · rintro ⟨_, he, hle⟩
        cases he
        exact absurd hle hdue
  | endless => simp [endingAt, endingBy]

section
variable {α σ : Type} {poll : α → σ → Reading α × σ} {time : σ → Nat}
  {plays : Bool → Conduct → α → σ → Prop} {b : Conduct} {deadline : Nat} {begun : Bool}

/-- A look at a computation at a time within the deadline. -/
theorem look_ends (hp : Behaves poll time plays) {task : α} {s : σ} (h : plays begun b task s)
    (hle : time s ≤ deadline) :
    (∃ s', Reading.look poll deadline (time s) (.inl task) s = (.inr (b.endingAt deadline), s') ∧
      time s' = time s) ∨
    ∃ u s', Reading.look poll deadline (time s) (.inl task) s = (.inl u, s') ∧
      time s' = time s ∧ time s < deadline ∧ plays true b u s' := by
  have hsame : time (poll task s).2 = time s := hp.instant h
  cases he : b.endingBy (time s) with
  | some ending =>
    have hend : b.endingAt deadline = ending := by
      rw [Conduct.endingAt, Conduct.endingBy_mono he hle]
      rfl
    refine Or.inl ⟨_, ?_, hsame⟩
    rw [Round.look_of_ended (hp.ended h he), hend]
  | none =>
    obtain ⟨u, hu, hgoing⟩ := hp.going h he
    rw [Round.look_of_going hu]
    by_cases hd : deadline ≤ time s
    · -- this is the last moment, and the computation is not over
      have hlast : time s = deadline := Nat.le_antisymm hle hd
      rw [hlast] at he
      refine Or.inl ⟨_, ?_, hsame⟩
      rw [if_pos hd, Conduct.endingAt, he]
      rfl
    · refine Or.inr ⟨u, _, ?_, hsame, Nat.lt_of_not_le hd, hgoing⟩
      rw [if_neg hd]

/-- A computation that is looked at first at a time within the deadline is over by the deadline, as
its conduct says, or under way before it. -/
theorem follow_ends (hp : Behaves poll time plays) {f : σ → σ} {rest : List (σ → σ)}
    (hm : ∀ g ∈ rest, Happens time plays deadline g) {task : α} {s : σ}
    (h : plays begun b task (f s)) (hle : time (f s) ≤ deadline) :
    match Reading.follow poll time deadline (f :: rest) task s with
    | .inl (now, ending) => now ≤ deadline ∧ ending = b.endingAt deadline
    | .inr (_, s') => time s' < deadline := by
  induction rest generalizing f begun task s with
  | nil =>
    rcases look_ends hp h hle with ⟨s', he, hsame⟩ | ⟨u, s', he, hsame, hlt, -⟩
    · simp only [Reading.follow, he]
      exact ⟨by omega, trivial⟩
    · simp only [Reading.follow, he]
      omega
  | cons g rest ih =>
    rcases look_ends hp h hle with ⟨s', he, hsame⟩ | ⟨u, s', he, hsame, hlt, hgoing⟩
    · simp only [Reading.follow, he]
      exact ⟨by omega, trivial⟩
    · -- the next thing that goes on does not take the clock past the deadline
      have hg := hm g List.mem_cons_self
      have hnext : time (g s') ≤ deadline := hg.stops s' (by omega)
      have hrest := ih (f := g) (fun f hf => hm f (List.mem_cons_of_mem _ hf))
        (hg.undisturbed hgoing) hnext
      rw [Reading.follow, he]
      exact hrest

end

end NodeStack.Stack

namespace NodeStack.Scenario

open Plan (Look)
open Stack (Behaves Conduct Ending Happens Reading Round)

namespace World

/-! ### Deeds on a clock -/

/-- A deed on a clock: it is looked at after each of the things that go on meanwhile. It comes to its
end, with the time and the answer or the text of a breakdown, or so far. -/
def await {α : Type} (look : Option DeedFlight → World → Look α DeedFlight × World) :
    List (World → World) → Option DeedFlight → World →
      (Nat × Except (Option String) α) ⊕ World
  | [], _, w => .inr w
  | f :: rest, flight, w =>
    match look flight (f w) with
    | (.answered a, w) => .inl (w.now, .ok a)
    | (.crashed text, w) => .inl (w.now, .error text)
    | (.waiting flight, w) => await look rest (some flight) w

/-- What a caller gets of a computation that was found out on the spot. -/
def outcome : Ending → Except (Option String) String
  | .crashed message => .error message
  | ending => .ok ending.report

theorem outcome_eq_error {ending : Ending} {message : Option String} :
    outcome ending = .error message ↔ ending = .crashed message := by
  cases ending <;> simp [outcome]

theorem report_of_outcome (ending : Ending) :
    (match outcome ending with
      | .ok text => text
      | .error message => "Error: " ++ message.getD "panic") = ending.report := by
  cases ending <;> rfl

theorem deadline_pollStatus {t u : StatusTask} {w : World} (h : (pollStatus t w).1 = .inl u) :
    u.deadline = t.deadline := by
  unfold pollStatus at h
  split at h
  · cases h
  · cases h
  · cases h
    rfl

theorem deadline_look {t u : StatusTask} {w w' : World} {now : Nat}
    (h : Reading.look pollStatus t.deadline now (.inl t) w = (.inl u, w')) :
    u.deadline = t.deadline := by
  cases hp : (pollStatus t w).1 with
  | inr ending =>
    rw [Round.look_of_ended hp] at h
    cases h
  | inl task =>
    rw [Round.look_of_going hp] at h
    split at h
    · cases h
    · cases h
      exact deadline_pollStatus hp

/-- To look at the status of a service again and again is to follow its computation. -/
theorem await_lookStatus (service : Nat) (meanwhile : List (World → World)) (t : StatusTask)
    (w : World) :
    await (lookStatus service) meanwhile (some (.status t)) w =
      match Reading.follow pollStatus World.now t.deadline meanwhile t w with
      | .inl (now, ending) => .inl (now, outcome ending)
      | .inr (_, w) => .inr w := by
  induction meanwhile generalizing t w with
  | nil => rfl
  | cons f rest ih =>
    simp only [await, lookStatus, Reading.follow]
    cases hlook : Reading.look pollStatus t.deadline (f w).now (.inl t) (f w) with
    | mk reading w' =>
      cases reading with
      | inl u =>
        -- the deadline is kept in the task, and no look changes it
        dsimp only
        rw [ih u w', deadline_look hlook]
      | inr ending => cases ending <;> rfl

/-- To look at a round again and again is to follow it. -/
theorem await_lookRound (deadline : Nat) (meanwhile : List (World → World)) {r : Round StatusTask}
    (h : r.result? = none) (w : World) :
    await (lookRound deadline) meanwhile (some (.round r)) w =
      match r.follow pollStatus World.now meanwhile w with
      | .inl (now, d) => .inl (now, .ok d)
      | .inr (_, w) => .inr w := by
  induction meanwhile generalizing r w with
  | nil => simp only [await, Round.follow, h]
  | cons f rest ih =>
    simp only [await, lookRound, Round.follow, h]
    cases hlook : r.look pollStatus (f w).now (f w) with
    | mk r' w' =>
      cases hd : r'.result? with
      | some d =>
        simp only
        rw [Round.follow_of_result hd]
      | none => exact ih hd w'

/-- A round from its beginning: the tasks are there before anything is looked at. -/
theorem await_round (deadline : Nat) (meanwhile : List (World → World)) (w : World) :
    await (lookRound deadline) (id :: meanwhile) none w =
      match (w.round deadline).follow pollStatus World.now meanwhile w with
      | .inl (now, d) => .inl (now, .ok d)
      | .inr (_, w) => .inr w := by
  cases hd : (w.round deadline).result? with
  | some d =>
    rw [Round.follow_of_result hd]
    simp only [await, lookRound, id, hd]
  | none =>
    rw [← await_lookRound deadline meanwhile hd w]
    simp only [await, lookRound, id, hd]

theorem mem_statusTasks {w : World} {name : String} {service : Nat}
    (h : w.registry.byName? name = some service) (deadline : Nat) :
    (name, w.statusTask deadline service) ∈ w.statusTasks deadline := by
  obtain ⟨hlt, hname, -⟩ := List.findIdx?_eq_some_iff_getElem.mp h
  have hnameOf : w.nameOf service = name := by
    simp only [nameOf, Stack.Registry.get?, List.getElem?_eq_getElem hlt]
    exact eq_of_beq hname
  refine List.mem_map.mpr ⟨service, List.mem_range.mpr hlt, ?_⟩
  rw [hnameOf]

end World

/-! ### One status and a round -/

/-- What a client is told who asks for the status of a service. -/
theorem run_handle_status {view : Api.View} {request : Api.Request} {segment : List Char}
    {name : String} {service : Nat} (hmethod : request.method = "GET")
    (hroute : Api.Route.find? request.segments = some (.status segment))
    (hsegment : Api.segmentText? segment = some name)
    (hname : view.registry.byName? name = some service)
    (answer : (q : Api.Question) → q.Answer) :
    (Api.handle view request).run answer =
      (.ofJson 200 (Api.statusJson name (answer (.status service))), [.status service]) := by
  have htakes : (Api.Route.status segment).takes "GET" = true := rfl
  unfold Api.handle
  rw [hroute, hmethod]
  simp only [htakes, if_true]
  simp only [Api.handleAt, Api.withSegment, hsegment, Api.oneStatus, hname]
  rfl

open World in
/-- The status of one service and a round of all statuses, begun in the same world and with the same
time, whatever the computations do and whatever else goes on. `b` says how the computation for each
name goes.

* The one status is over by the deadline: it can be under way only before that.
* It ends with a text, except when its computation breaks down by the deadline. Then nothing catches
  the breakdown, and there is no status.
* The round comes to an end with an entry for the service in any case. It is the same text as that of
  the one status, and in the case of a breakdown `Error: ` and the text of that.
* A client who asks for the status of the service is told the text. -/
theorem status_agrees {w : World} {plays : Bool → Conduct → StatusTask → World → Prop}
    (hp : Behaves pollStatus World.now plays) (b : String → Conduct)
    (htasks : ∀ name task, (name, task) ∈ w.statusTasks (w.now + w.timeout) →
      plays false (b name) task w)
    {alone together : List (World → World)}
    (halone : ∀ f ∈ alone, Happens World.now plays (w.now + w.timeout) f)
    (htogether : ∀ f ∈ together, Happens World.now plays (w.now + w.timeout) f)
    {name : String} {service : Nat} (hname : w.registry.byName? name = some service) :
    match await (lookStatus service) (id :: alone) none w with
    | .inr w' => w'.now < w.now + w.timeout
    | .inl (now, outcome) =>
      now ≤ w.now + w.timeout ∧
      ((∃ message, outcome = .error message) ↔
        ∃ due message, b name = .crashes due message ∧ due ≤ w.now + w.timeout) ∧
      (match await (lookRound (w.now + w.timeout)) (id :: id :: together) none w with
      | .inr w' => w'.now < w.now + w.timeout
      | .inl (now, result) => now ≤ w.now + w.timeout ∧ ∃ d, result = .ok d ∧
        Dict.get? name d = some (match outcome with
          | .ok text => text
          | .error message => "Error: " ++ message.getD "panic")) ∧
      ∀ text (view : Api.View) (request : Api.Request) (segment : List Char)
        (answer : (q : Api.Question) → q.Answer), outcome = .ok text →
        view.registry = w.registry → request.method = "GET" →
        Api.Route.find? request.segments = some (.status segment) →
        Api.segmentText? segment = some name → answer (.status service) = text →
        (Api.handle view request).run answer =
          (.ofJson 200 (Api.statusJson name text), [.status service]) := by
  have hmem := mem_statusTasks hname (w.now + w.timeout)
  have hbegin := htasks _ _ hmem
  -- the one status begins with the task that it has in a round
  have hone : await (lookStatus service) (id :: alone) none w =
      match Reading.follow pollStatus World.now (w.now + w.timeout) (id :: alone)
        (w.statusTask (w.now + w.timeout) service) w with
      | .inl (now, ending) => .inl (now, outcome ending)
      | .inr (_, w) => .inr w :=
    await_lookStatus service (id :: alone) (w.statusTask (w.now + w.timeout) service) w
  have hend := Stack.follow_ends (f := id) hp halone hbegin (Nat.le_add_right _ _)
  rw [hone]
  generalize Reading.follow pollStatus World.now (w.now + w.timeout) (id :: alone)
    (w.statusTask (w.now + w.timeout) service) w = followed at hend ⊢
  rcases followed with ⟨now, ending⟩ | ⟨_, w'⟩
  · obtain ⟨hnow, hending⟩ := hend
    refine ⟨hnow, ?_, ?_, ?_⟩
    · -- on the spot, a breakdown is the one ending that is no text
      simp only [outcome_eq_error, hending, Conduct.endingAt_eq_crashed]
      exact exists_comm
    · -- the round reports what the conduct says by the deadline, and so does the one status
      rw [await_round, report_of_outcome, hending, Conduct.report_endingAt]
      have hnodup : ((w.statusTasks (w.now + w.timeout)).map (·.1)).Nodup := by
        rw [names_statusTasks]
        exact w.registry.nodup
      have hround := Round.follow_start hp hnodup htasks htogether
        (show w.now < w.now + w.timeout + Stack.grace by simp [Stack.grace]; omega)
      -- the round begins before the deadline, so it is over by the deadline
      rw [Nat.max_eq_right (Nat.le_add_right _ _)] at hround
      change Round.Concludes _ _ _ _ _ ((w.round (w.now + w.timeout)).follow _ _ _ w) at hround
      generalize (w.round (w.now + w.timeout)).follow pollStatus World.now (id :: together) w =
        collected at hround ⊢
      rcases collected with ⟨now', d⟩ | ⟨_, w'⟩
      · obtain ⟨hnow', -, hentries⟩ := hround
        exact ⟨hnow', d, rfl, hentries name (List.mem_map_of_mem hmem)⟩
      · exact hround
    · intro text view request segment answer _ hview hmethod hroute hsegment hanswer
      rw [← hanswer]
      exact run_handle_status hmethod hroute hsegment (hview ▸ hname) answer
  · exact hend

open World Stack in
/-- The one that hangs is given up at the deadline on either way, with the same text. -/
theorem status_agrees_hung :
    ∃ now d, await (lookStatus 1) [id, passTo 1000] none trioWorld =
        .inl (1000, .ok "Error: timeout") ∧
      await (lookRound 1000) [id, id, passTo 1000] none trioWorld = .inl (now, .ok d) ∧
      now ≤ 1000 ∧ Dict.get? "hung" d = some "Error: timeout" := by
  have hone : await (lookStatus 1) [id, passTo 1000] none trioWorld =
      .inl (1000, .ok "Error: timeout") := rfl
  have hover : (await (lookRound 1000) [id, id, passTo 1000] none trioWorld).isLeft := rfl
  have hagrees := status_agrees behaves_plays (fun name => conductOf 0 (trioAct name))
    (w := trioWorld) (plays_statusTasks kinds_trio 1000) (happens_passTo 1000)
    (happens_passTo 1000) (show trioWorld.registry.byName? "hung" = some 1 by decide)
  rw [hone] at hagrees
  obtain ⟨-, -, hround, -⟩ := hagrees
  change match await (lookRound 1000) [id, id, passTo 1000] none trioWorld with
    | .inr w' => w'.now < 1000
    | .inl (now, result) => now ≤ 1000 ∧ ∃ d, result = .ok d ∧
      Dict.get? "hung" d = some "Error: timeout" at hround
  generalize await (lookRound 1000) [id, id, passTo 1000] none trioWorld = collected
    at hover hround ⊢
  rcases collected with ⟨now, result⟩ | w'
  · obtain ⟨hnow, d, rfl, hentry⟩ := hround
    exact ⟨now, d, hone, rfl, hnow, hentry⟩
  · cases hover

open World Stack in
/-- The one that breaks down has an entry in the round, and no status of its own. -/
theorem not_agrees_crash :
    trioWorld.registry.byName? "broken" = some 2 ∧
    await (lookStatus 2) [id] none trioWorld = .inl (0, .error (some "boom")) ∧
    ∃ d, await (lookRound 1000) [id, id, passTo 1000] none trioWorld = .inl (1000, .ok d) ∧
      Dict.get? "broken" d = some "Error: boom" :=
  ⟨by decide, rfl, _, rfl, by decide⟩

end NodeStack.Scenario
