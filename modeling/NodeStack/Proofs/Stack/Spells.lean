import NodeStack.Proofs.Stack.Recorded
import NodeStack.Scenario.World.Background

/-!
# `NodeStack.Proofs.Stack.Spells`: a feed reads one stream of events after the other

A feed runs in any surroundings, which may change at any time; it is not told to stop. What it does
is recorded.

* `Spell`: a stream that has been read, from the subscription to the end, and what is recorded of
  it: every service is refreshed once, and then the events follow, each of them handled before the
  next one is read.
* `pauseAfter`: how long the feed pauses after some streams.
* `course_in_spells`: the record of a feed is one spell after the other, with these pauses between
  them, and the feed goes on as long as it is not kept waiting.

`Stands` says in each phase how much of the last spell is on record. `stands_step` is the step; that
time passes only while the feed waits makes every pause as long as it is meant to be.
-/

set_option autoImplicit false

namespace NodeStack.Stack.Feed

open Engine (Event)
open Plan (Look Progress)

section
variable {Stream F : Type}

/-! ### Spells -/

/-- A stream that has been read to its end. -/
structure Spell (Stream : Type) where
  /-- When the feed subscribed. -/
  began : Nat
  stream : Option Stream
  /-- What is asked to refresh the services, each question for a service of some number. -/
  sync : List (Nat × Asked)
  /-- The events, and what is asked to handle them. -/
  events : List (Event × List Asked)
  ended : Nat
  /-- Why it failed, unless it ended. -/
  fault : Option Engine.Fault

/-- What is recorded of a subscription, and of refreshing the services. -/
def opening (began : Nat) (stream : Option Stream) (sync : List (Nat × Asked)) :
    List (Entry Stream) :=
  .subscribed began stream :: sync.map (.asked ·.2)

/-- What is recorded of an event. -/
def news (stream : Option Stream) (event : Event × List Asked) : List (Entry Stream) :=
  .received stream event.1 :: event.2.map .asked

/-- What is recorded of a stream. -/
def Spell.entries (s : Spell Stream) : List (Entry Stream) :=
  opening s.began s.stream s.sync ++ s.events.flatMap (news s.stream) ++
    [.ended s.ended s.stream s.fault]

/-- What is recorded of some streams. -/
def record (spells : List (Spell Stream)) : List (Entry Stream) := spells.flatMap Spell.entries

/-- A service is refreshed: the engine is asked about its container, and what it says is taken
over. -/
def Refreshed (i : Nat) (service : Service) (asks : List Asked) : Prop :=
  (∃ fault, asks = [⟨.inspect service.handle.container, .error fault⟩]) ∨
    ∃ found, asks = [⟨.inspect service.handle.container, .ok found⟩, ⟨.take i found, ()⟩]

/-- Every service is refreshed once, and nothing else is asked. -/
structure Synced (r : Registry) (sync : List (Nat × Asked)) : Prop where
  own : ∀ x ∈ sync, x.1 < r.size
  refreshed : ∀ i service, r.get? i = some service → Refreshed i service (askedBy i sync)

/-- Every event is handled to the end. -/
def Handled (r : Registry) (events : List (Event × List Asked)) : Prop :=
  ∀ x ∈ events, Asks (handle r x.1) x.2 (.done ())

/-- How often the pause has doubled: once for every stream since the last one that brought an event,
or since the first one if none has brought any. -/
def doublings (spells : List (Spell Stream)) : Nat :=
  if spells.all (·.events.isEmpty) then spells.length - 1
  else (spells.reverse.takeWhile (·.events.isEmpty)).length

/-- How long a feed pauses after some streams, in seconds. -/
def pauseAfter (spells : List (Spell Stream)) : Nat := min (2 ^ doublings spells) 30

/-- Streams that have been read one after the other. -/
structure History (r : Registry) (spells : List (Spell Stream)) : Prop where
  synced : ∀ s ∈ spells, Synced r s.sync
  handled : ∀ s ∈ spells, Handled r s.events
  resumed : ∀ n a b, spells[n]? = some a → spells[n + 1]? = some b →
    b.began = a.ended + 1000 * pauseAfter (spells.take (n + 1))

/-! ### Runs -/

/-- A feed runs in surroundings that may change at any time. Time passes only while it cannot go on,
and its pauses end in time. -/
inductive Course {σ : Type} (around : Surroundings σ Stream F) (r : Registry) :
    Nat → Task Stream F → σ → List (Entry Stream) → Prop where
  /-- It has not begun. -/
  | start (now : Nat) (s : σ) : Course around r now Task.start s []
  /-- It takes a step. -/
  | step {now : Nat} {t t' : Task Stream F} {s s' : σ} {log : List (Entry Stream)} {more : Bool}
    (h : Course around r now t s log) (hstep : t.step around r now false s = (t', more, s')) :
    Course around r now t' s' (t.step (around.recorded now) r now false (s, log)).2.2.2
  /-- The surroundings change. -/
  | beside {now : Nat} {t : Task Stream F} {s : σ} {log : List (Entry Stream)}
    (h : Course around r now t s log) (s' : σ) : Course around r now t s' log
  /-- Time passes. -/
  | pass {now later : Nat} {t : Task Stream F} {s : σ} {log : List (Entry Stream)}
    (h : Course around r now t s log) (hidle : (t.step around r now false s).2.1 = false)
    (hle : now ≤ later) (hwake : ∀ wake, t.feed.phase = .pausing wake → later ≤ wake) :
    Course around r later t s log

/-- Where a feed goes from where it stands. -/
inductive Onward : Feed.Phase → Feed.Phase → Prop where
  | subscribed : Onward .subscribing .syncing
  | synced : Onward .syncing .listening
  | received (event : Event) : Onward .listening (.handling event)
  | handled (event : Event) : Onward (.handling event) .listening
  | ended (wake : Nat) : Onward .listening (.pausing wake)
  | woken (wake : Nat) : Onward (.pausing wake) .subscribing
  | syncCrashed : Onward .syncing .crashed
  | handlingCrashed (event : Event) : Onward (.handling event) .crashed

/-- What keeps a feed waiting: a question that is not answered, a stream that brings nothing, or its
pause. A feed that has crashed does not go on. -/
def Waits {σ : Type} (around : Surroundings σ Stream F) (now : Nat) (t : Task Stream F) (s : σ) :
    Prop :=
  match t.feed.phase with
  | .syncing | .handling _ =>
    ∃ task ∈ (Progress.resumeAll around.look t.work s).1, task.isOver = false
  | .listening => (around.receive t.stream s).1 = .nothing
  | .pausing wake => now < wake
  | .crashed => True
  | .subscribing | .ended => False

/-! ### Pauses -/

theorem doublings_of_news {spells : List (Spell Stream)} {s : Spell Stream}
    (h : s.events.isEmpty = false) : doublings (spells ++ [s]) = 0 := by
  simp [doublings, h]

theorem doublings_of_idle {spells : List (Spell Stream)} {s : Spell Stream}
    (h : s.events.isEmpty = true) (hspells : spells ≠ []) :
    doublings (spells ++ [s]) = doublings spells + 1 := by
  have hpos : 0 < spells.length := List.length_pos_iff.mpr hspells
  unfold doublings
  rw [List.all_append, List.reverse_append]
  cases hall : spells.all (·.events.isEmpty) with
  | true =>
    -- No stream has brought an event: the first of them has not doubled the pause.
    simp [h]
    omega
  | false => simp [h]

/-- How long the next pause is if no event comes, in seconds. -/
def idlePause (spells : List (Spell Stream)) : Nat :=
  if spells = [] then shortest else min (2 * pauseAfter spells) longest

theorem pauseAfter_concat (spells : List (Spell Stream)) (s : Spell Stream) :
    pauseAfter (spells ++ [s]) = if s.events.isEmpty then idlePause spells else shortest := by
  unfold pauseAfter
  cases h : s.events.isEmpty with
  | false => rw [doublings_of_news h]; rfl
  | true =>
    rw [if_pos rfl, idlePause]
    split
    · next hspells =>
      rw [hspells]
      simp [doublings, h, shortest]
    · next hspells =>
      rw [doublings_of_idle h hspells, Nat.pow_succ, pauseAfter, longest]
      omega

theorem pauseAfter_bounds (spells : List (Spell Stream)) :
    1 ≤ pauseAfter spells ∧ pauseAfter spells ≤ 30 := by
  have hpos : 0 < 2 ^ doublings spells := Nat.two_pow_pos _
  unfold pauseAfter
  omega

/-! ### Histories -/

theorem record_concat (spells : List (Spell Stream)) (s : Spell Stream) :
    record (spells ++ [s]) = record spells ++ s.entries := by
  simp [record]

theorem History.concat {r : Registry} {spells : List (Spell Stream)} {s : Spell Stream}
    (h : History r spells) (hsynced : Synced r s.sync) (hhandled : Handled r s.events)
    (hbegan : ∀ a, spells.getLast? = some a → s.began = a.ended + 1000 * pauseAfter spells) :
    History r (spells ++ [s]) := by
  refine ⟨fun u hu => ?_, fun u hu => ?_, fun n a b ha hb => ?_⟩
  · rcases List.mem_append.mp hu with hu | hu
    · exact h.synced u hu
    · exact List.mem_singleton.mp hu ▸ hsynced
  · rcases List.mem_append.mp hu with hu | hu
    · exact h.handled u hu
    · exact List.mem_singleton.mp hu ▸ hhandled
  · have hlt : n + 1 < spells.length + 1 := by
      have hlt := (List.getElem?_eq_some_iff.mp hb).1
      rwa [List.length_append] at hlt
    rw [List.getElem?_append_left (by omega)] at ha
    rw [List.take_append_of_le_length (by omega)]
    -- The later of the two is the new one, or both are among the old ones.
    rcases Nat.lt_or_ge (n + 1) spells.length with hn | hn
    · rw [List.getElem?_append_left hn] at hb
      exact h.resumed n a b ha hb
    · have hlast : n + 1 = spells.length := by omega
      rw [List.getElem?_append_right hn, hlast, Nat.sub_self] at hb
      obtain rfl := Option.some.inj hb
      rw [hlast, List.take_length]
      refine hbegan a ?_
      rw [List.getLast?_eq_getElem?, ← hlast]
      exact ha

/-! ### What is asked -/

/-- What a service is asked to be refreshed. -/
theorem refreshed_of_asks {r : Registry} {i : Nat} {service : Service} {asks : List Asked}
    (hservice : r.get? i = some service) (h : Asks (refreshAt r i) asks (.done ())) :
    Refreshed i service asks := by
  have hplan : refreshAt r i = tryRefresh i service.handle.container := by
    rw [refreshAt, hservice]
  rw [hplan] at h
  cases h with
  | @ask q next a rest p h =>
    cases a with
    | error fault =>
      cases h
      exact .inl ⟨fault, rfl⟩
    | ok found =>
      cases h with
      | @ask q next a rest p h =>
        cases h
        exact .inr ⟨found, rfl⟩

theorem syncs_getElem? {r : Registry} {i : Nat} (h : i < r.size) :
    (syncs r)[i]? = some (refreshAt r i) := by
  rw [syncs, List.getElem?_map, List.getElem?_range h]
  rfl

theorem length_syncs (r : Registry) : (syncs r).length = r.size := by
  rw [syncs, List.length_map, List.length_range]

/-- Once every procedure has ended, every service has been refreshed. -/
theorem synced_of_asks {r : Registry} {sync : List (Nat × Asked)}
    (hown : ∀ x ∈ sync, x.1 < (syncs r).length)
    (h : ∀ k p, (syncs r)[k]? = some p → Asks p (askedBy k sync) (.done ())) : Synced r sync where
  own x hx := length_syncs r ▸ hown x hx
  refreshed i service hservice := by
    have hlt : i < r.size := (List.getElem?_eq_some_iff.mp hservice).1
    exact refreshed_of_asks hservice (h i _ (syncs_getElem? hlt))

/-- A single procedure that has ended. -/
theorem asks_single {p : Tracking Unit} {asks : List (Nat × Asked)}
    (hown : ∀ x ∈ asks, x.1 < [p].length)
    (h : ∀ k q, [p][k]? = some q → Asks q (askedBy k asks) (.done ())) :
    Asks p (asks.map (·.2)) (.done ()) := by
  rw [← askedBy_zero hown]
  exact h 0 p rfl

theorem handled_nil (r : Registry) : Handled r [] := fun _ h => (nomatch h)

theorem Handled.concat {r : Registry} {events : List (Event × List Asked)} {event : Event}
    {asks : List Asked}
    (h : Handled r events) (hevent : Asks (handle r event) asks (.done ())) :
    Handled r (events ++ [(event, asks)]) := by
  intro x hx
  rcases List.mem_append.mp hx with hx | hx
  · exact h x hx
  · exact List.mem_singleton.mp hx ▸ hevent

/-! ### The invariant -/

variable {r : Registry} {past : List (Spell Stream)} {began pause now : Nat}

/-- Some streams have been read, the next one has been subscribed for at the time `began`, and this
is the next pause if no event comes. -/
structure Due (r : Registry) (past : List (Spell Stream)) (began pause : Nat) : Prop where
  history : History r past
  began : ∀ a, past.getLast? = some a → began = a.ended + 1000 * pauseAfter past
  pause : pause = idlePause past

/-- How much of a stream is on record, in each phase of a feed. -/
def Stands (r : Registry) (now : Nat) (t : Task Stream F) (log : List (Entry Stream)) : Prop :=
  match t.feed.phase with
  | .subscribing => ∃ past, Due r past now t.feed.pause ∧ log = record past
  | .syncing => ∃ past began sync, Due r past began t.feed.pause ∧ t.feed.delivered = false ∧
      Abreast (syncs r) sync t.work ∧ log = record past ++ opening began t.stream sync
  | .listening => ∃ past began sync events, Due r past began t.feed.pause ∧ Synced r sync ∧
      Handled r events ∧ t.feed.delivered = !events.isEmpty ∧
      log = record past ++ (opening began t.stream sync ++ events.flatMap (news t.stream))
  | .handling event => ∃ past began sync events asks, Due r past began t.feed.pause ∧
      Synced r sync ∧ Handled r events ∧ t.feed.delivered = true ∧ Abreast [handle r event] asks t.work ∧
      log = record past ++ (opening began t.stream sync ++
        (events ++ [(event, asks.map (·.2))]).flatMap (news t.stream))
  | .pausing wake => ∃ past last, History r (past ++ [last]) ∧
      t.feed.pause = idlePause (past ++ [last]) ∧
      wake = last.ended + 1000 * pauseAfter (past ++ [last]) ∧ now ≤ wake ∧
      log = record (past ++ [last])
  | .crashed => ∃ spells, History r spells ∧ log <+: record spells
  | .ended => False

theorem stands_start (now : Nat) : Stands r now (Task.start : Task Stream F) [] :=
  ⟨[], ⟨⟨fun _ h => (nomatch h), fun _ h => (nomatch h), fun _ _ _ h => (nomatch h)⟩,
    fun _ h => (nomatch h), rfl⟩, rfl⟩

/-- What is on record of a stream can be gone on with until the stream is over. -/
theorem Due.complete (h : Due r past began pause) {stream : Option Stream}
    {sync : List (Nat × Asked)} {events : List (Event × List Asked)} {part : List (Entry Stream)}
    (hsynced : Synced r sync) (hhandled : Handled r events)
    (hpart : part <+: opening began stream sync ++ events.flatMap (news stream)) :
    ∃ spells, History r spells ∧ record past ++ part <+: record spells := by
  let last : Spell Stream := ⟨began, stream, sync, events, began, none⟩
  refine ⟨past ++ [last], h.history.concat hsynced hhandled h.began, ?_⟩
  rw [record_concat]
  exact (List.prefix_append_right_inj _).mpr (hpart.trans (List.prefix_append _ _))

theorem Due.complete_sync (h : Due r past began pause) {stream : Option Stream}
    {sync : List (Nat × Asked)} {tasks : List (Progress Track Track.Answer F Unit)}
    (habreast : Abreast (syncs r) sync tasks) :
    ∃ spells, History r spells ∧ record past ++ opening began stream sync <+: record spells := by
  -- The services that are still being refreshed come to their ends if they are answered.
  obtain ⟨more, hown, hends⟩ := habreast.finish
  have hpart : opening began stream sync <+:
      opening began stream (sync ++ more) ++ [].flatMap (news stream) :=
    ⟨more.map (.asked ·.2), by simp [opening]⟩
  exact h.complete (synced_of_asks hown hends) (handled_nil r) hpart

theorem Due.complete_handling (h : Due r past began pause) {stream : Option Stream}
    {sync : List (Nat × Asked)} {events : List (Event × List Asked)} {event : Event}
    {asks : List (Nat × Asked)} {tasks : List (Progress Track Track.Answer F Unit)}
    (hsynced : Synced r sync) (hhandled : Handled r events)
    (habreast : Abreast [handle r event] asks tasks) :
    ∃ spells, History r spells ∧ record past ++ (opening began stream sync ++
      (events ++ [(event, asks.map (·.2))]).flatMap (news stream)) <+: record spells := by
  obtain ⟨more, hown, hends⟩ := habreast.finish
  have hpart : opening began stream sync ++
        (events ++ [(event, asks.map (·.2))]).flatMap (news stream) <+:
      opening began stream sync ++
        (events ++ [(event, (asks ++ more).map (·.2))]).flatMap (news stream) :=
    ⟨more.map (.asked ·.2), by simp [news]⟩
  exact h.complete hsynced (hhandled.concat (asks_single hown hends)) hpart

/-- The record of a feed is the beginning of the record of some streams. -/
theorem Stands.spells {t : Task Stream F} {log : List (Entry Stream)} (h : Stands r now t log) :
    ∃ spells, History r spells ∧ log <+: record spells := by
  unfold Stands at h
  cases hphase : t.feed.phase with
  | subscribing =>
    rw [hphase] at h
    obtain ⟨past, hdue, rfl⟩ := h
    exact ⟨past, hdue.history, List.prefix_rfl⟩
  | syncing =>
    rw [hphase] at h
    obtain ⟨past, began, sync, hdue, -, habreast, rfl⟩ := h
    exact hdue.complete_sync habreast
  | listening =>
    rw [hphase] at h
    obtain ⟨past, began, sync, events, hdue, hsynced, hhandled, -, rfl⟩ := h
    exact hdue.complete hsynced hhandled List.prefix_rfl
  | handling event =>
    rw [hphase] at h
    obtain ⟨past, began, sync, events, asks, hdue, hsynced, hhandled, -, habreast, rfl⟩ := h
    exact hdue.complete_handling hsynced hhandled habreast
  | pausing wake =>
    rw [hphase] at h
    obtain ⟨past, last, hhistory, -, -, -, rfl⟩ := h
    exact ⟨past ++ [last], hhistory, List.prefix_rfl⟩
  | crashed =>
    rw [hphase] at h
    exact h
  | ended =>
    rw [hphase] at h
    exact h.elim

/-! ### Steps -/

variable {σ : Type} {around : Surroundings σ Stream F} {t : Task Stream F} {s : σ}
  {log : List (Entry Stream)}

/-- What a feed does when its procedures go on: it breaks down, it goes on to what comes next, or it
waits. -/
theorem proceed_cases (next : Feed → Feed) {tasks : List (Progress Track Track.Answer F Unit)}
    {s' : σ} (h : Progress.resumeAll around.look t.work s = (tasks, s')) :
    t.proceed around next s = (⟨t.feed.crash, t.stream, tasks⟩, true, s') ∨
      t.proceed around next s = (⟨next t.feed, t.stream, tasks⟩, true, s') ∧
        (∀ task ∈ tasks, task = .ended ()) ∨
      t.proceed around next s = (⟨t.feed, t.stream, tasks⟩, false, s') ∧
        ∃ task ∈ tasks, task.isOver = false := by
  rw [Task.proceed, h]
  dsimp only
  cases hcrash : Progress.anyCrashed tasks with
  | true => exact .inl rfl
  | false =>
    cases hover : Progress.allOver tasks with
    | true =>
      refine .inr (.inl ⟨rfl, fun task htask => ?_⟩)
      cases task with
      | ended value => rfl
      | waiting plan flight => exact absurd (List.all_eq_true.mp hover _ htask) Bool.noConfusion
      | crashed text => exact absurd rfl (List.any_eq_false.mp hcrash _ htask)
    | false =>
      obtain ⟨task, htask, hwaits⟩ := List.all_eq_false.mp hover
      exact .inr (.inr ⟨rfl, task, htask, eq_false_of_ne_true hwaits⟩)

/-- What is on record when the procedures of a feed go on. -/
theorem proceed_abreast {plans : List (Tracking Unit)} {asks : List (Nat × Asked)}
    (h : Abreast plans asks t.work) (next : Feed → Feed) :
    let done := t.proceed (around.recorded now) next (s, log)
    ∃ more : List (Nat × Asked), done.2.2.2 = log ++ more.map (.asked ·.2) ∧
      done.1.stream = t.stream ∧ Abreast plans (asks ++ more) done.1.work ∧
      (done.1.feed = t.feed.crash ∨
        done.1.feed = next t.feed ∧
          (∀ k p, plans[k]? = some p → Asks p (askedBy k (asks ++ more)) (.done ())) ∨
        done.1.feed = t.feed) := by
  obtain ⟨more, hlog, habreast, -⟩ := resumeAll_recorded around now h s log
  generalize hresumed : Progress.resumeAll (around.recorded now).look t.work (s, log) = resumed
    at hlog habreast
  obtain ⟨tasks, s', log'⟩ := resumed
  refine ⟨more, ?_⟩
  rcases proceed_cases next hresumed with hdone | ⟨hdone, hended⟩ | ⟨hdone, -⟩ <;> rw [hdone]
  · exact ⟨hlog, rfl, habreast, .inl rfl⟩
  · refine ⟨hlog, rfl, habreast, .inr (.inl ⟨rfl, fun k p hp => ?_⟩)⟩
    obtain ⟨task, htask⟩ : ∃ task, tasks[k]? = some task := ⟨_, List.getElem?_eq_getElem
      (habreast.length ▸ (List.getElem?_eq_some_iff.mp hp).1)⟩
    obtain rfl := hended task (List.mem_of_getElem? htask)
    exact habreast.became k p _ hp htask
  · exact ⟨hlog, rfl, habreast, .inr (.inr rfl)⟩

/-- Procedures take a feed on, or keep it waiting. -/
theorem proceed_onward (around : Surroundings σ Stream F) (t : Task Stream F) (s : σ)
    (next : Feed → Feed) :
    let done := t.proceed around next s
    (done.2.1 = true → done.1.feed = t.feed.crash ∨ done.1.feed = next t.feed) ∧
      (done.2.1 = false →
        ∃ task ∈ (Progress.resumeAll around.look t.work s).1, task.isOver = false) := by
  generalize hresumed : Progress.resumeAll around.look t.work s = resumed
  obtain ⟨tasks, s'⟩ := resumed
  rcases proceed_cases next hresumed with hdone | ⟨hdone, -⟩ | ⟨hdone, hwaits⟩ <;> rw [hdone]
  · exact ⟨fun _ => .inl rfl, fun hstay => absurd hstay Bool.noConfusion⟩
  · exact ⟨fun _ => .inr rfl, fun hstay => absurd hstay Bool.noConfusion⟩
  · exact ⟨fun hgo => absurd hgo Bool.noConfusion, fun _ => hwaits⟩

/-- A feed goes on as long as nothing keeps it waiting. -/
theorem step_onward (around : Surroundings σ Stream F) (r : Registry) (now : Nat) (s : σ)
    (hphase : t.feed.phase ≠ .ended) :
    ((t.step around r now false s).2.1 = true →
        Onward t.feed.phase (t.step around r now false s).1.feed.phase) ∧
      ((t.step around r now false s).2.1 = false → Waits around now t s) := by
  unfold Task.step Waits
  cases h : t.feed.phase with
  | subscribing => exact ⟨fun _ => .subscribed, fun hstay => absurd hstay Bool.noConfusion⟩
  | syncing =>
    obtain ⟨hgoes, hstays⟩ := proceed_onward around t s Feed.synced
    refine ⟨fun hgo => ?_, hstays⟩
    rcases hgoes hgo with hfeed | hfeed <;> dsimp only <;> rw [hfeed]
    · exact .syncCrashed
    · exact .synced
  | handling event =>
    obtain ⟨hgoes, hstays⟩ := proceed_onward around t s Feed.handled
    refine ⟨fun hgo => ?_, hstays⟩
    rcases hgoes hgo with hfeed | hfeed <;> dsimp only <;> rw [hfeed]
    · exact .handlingCrashed event
    · exact .handled event
  | listening =>
    dsimp only
    rw [Task.listen]
    generalize around.receive t.stream s = found
    obtain ⟨_ | _ | _, s'⟩ := found
    · next item =>
      cases item with
      | ok event => exact ⟨fun _ => .received event, fun hstay => absurd hstay Bool.noConfusion⟩
      | error fault => exact ⟨fun _ => .ended _, fun hstay => absurd hstay Bool.noConfusion⟩
    · exact ⟨fun hgo => absurd hgo Bool.noConfusion, fun _ => rfl⟩
    · exact ⟨fun _ => .ended _, fun hstay => absurd hstay Bool.noConfusion⟩
  | pausing wake =>
    dsimp only
    split
    · next hstopped => exact absurd hstopped Bool.noConfusion
    · split
      · exact ⟨fun _ => .woken wake, fun hstay => absurd hstay Bool.noConfusion⟩
      · next hwake =>
        exact ⟨fun hgo => absurd hgo Bool.noConfusion, fun _ => Nat.lt_of_not_le hwake⟩
  | crashed => exact ⟨fun hgo => absurd hgo Bool.noConfusion, fun _ => trivial⟩
  | ended => exact absurd h hphase

theorem stands_sync (hphase : t.feed.phase = .syncing) (h : Stands r now t log) :
    let done := t.proceed (around.recorded now) Feed.synced (s, log)
    Stands r now done.1 done.2.2.2 := by
  unfold Stands at h
  rw [hphase] at h
  obtain ⟨past, began, sync, hdue, hdelivered, habreast, hlog⟩ := h
  obtain ⟨more, hmore, hstream, habreast, hfeed⟩ := proceed_abreast habreast Feed.synced
  generalize t.proceed (around.recorded now) Feed.synced (s, log) = done at *
  obtain ⟨⟨feed, stream, work⟩, go, s', log'⟩ := done
  dsimp only at hmore hstream habreast hfeed ⊢
  have hopening : log' = record past ++ opening began stream (sync ++ more) := by
    rw [hmore, hlog, hstream]
    simp [opening]
  rcases hfeed with rfl | ⟨rfl, hends⟩ | rfl
  · exact hopening ▸ hdue.complete_sync habreast
  · refine ⟨past, began, sync ++ more, [], hdue, synced_of_asks habreast.own hends, handled_nil r,
      hdelivered, ?_⟩
    rw [hopening]
    simp
  · unfold Stands
    rw [hphase]
    exact ⟨past, began, sync ++ more, hdue, hdelivered, habreast, hopening⟩

theorem stands_handle {event : Event} (hphase : t.feed.phase = .handling event)
    (h : Stands r now t log) :
    let done := t.proceed (around.recorded now) Feed.handled (s, log)
    Stands r now done.1 done.2.2.2 := by
  unfold Stands at h
  rw [hphase] at h
  obtain ⟨past, began, sync, events, asks, hdue, hsynced, hhandled, hdelivered, habreast, hlog⟩ := h
  obtain ⟨more, hmore, hstream, habreast, hfeed⟩ := proceed_abreast habreast Feed.handled
  generalize t.proceed (around.recorded now) Feed.handled (s, log) = done at *
  obtain ⟨⟨feed, stream, work⟩, go, s', log'⟩ := done
  dsimp only at hmore hstream habreast hfeed ⊢
  have hnews : log' = record past ++ (opening began stream sync ++
      (events ++ [(event, (asks ++ more).map (·.2))]).flatMap (news stream)) := by
    rw [hmore, hlog, hstream]
    simp [news]
  rcases hfeed with rfl | ⟨rfl, hends⟩ | rfl
  · exact hnews ▸ hdue.complete_handling hsynced hhandled habreast
  · refine ⟨past, began, sync, _, hdue, hsynced, hhandled.concat (asks_single habreast.own hends),
      ?_, hnews⟩
    simp [Feed.handled, hdelivered]
  · unfold Stands
    rw [hphase]
    exact ⟨past, began, sync, events, asks ++ more, hdue, hsynced, hhandled, hdelivered, habreast,
      hnews⟩

theorem stands_listen (hphase : t.feed.phase = .listening) (h : Stands r now t log) :
    let done := t.step (around.recorded now) r now false (s, log)
    Stands r now done.1 done.2.2.2 := by
  unfold Stands at h
  rw [hphase] at h
  obtain ⟨past, began, sync, events, hdue, hsynced, hhandled, hdelivered, rfl⟩ := h
  -- The stream is over, because it failed or not.
  have hover (fault : Option Engine.Fault) : Stands r now
      ({ t with feed := t.feed.endStream now, stream := none } : Task Stream F)
      (record past ++ (opening began t.stream sync ++ events.flatMap (news t.stream)) ++
        [.ended now t.stream fault]) := by
    let last : Spell Stream := ⟨began, t.stream, sync, events, now, fault⟩
    have hpause : t.feed.nextPause = pauseAfter (past ++ [last]) := by
      rw [pauseAfter_concat, Feed.nextPause, hdelivered, hdue.pause]
      cases events.isEmpty <;> rfl
    refine ⟨past, last, hdue.history.concat hsynced hhandled hdue.began, ?_, ?_, ?_, ?_⟩
    · simp [Feed.endStream, hpause, idlePause]
    · rw [hpause]
    · exact Nat.le_add_right _ _
    · rw [record_concat, List.append_assoc]
      rfl
  rw [Task.step, hphase]
  dsimp only
  rw [Task.listen, receive_recorded]
  generalize around.receive t.stream s = found
  obtain ⟨_ | _ | _, s'⟩ := found
  · next item =>
    cases item with
    | error fault => exact hover (some fault)
    | ok event =>
      refine ⟨past, began, sync, events, [], hdue, hsynced, hhandled, rfl, abreast_start _, ?_⟩
      simp [findingEntries, news]
  · show Stands r now t _
    unfold Stands
    rw [hphase]
    refine ⟨past, began, sync, events, hdue, hsynced, hhandled, hdelivered, ?_⟩
    simp [findingEntries]
  · exact hover none

/-- Every step adds to the record what comes next of a stream. -/
theorem stands_step (around : Surroundings σ Stream F) (s : σ) (h : Stands r now t log) :
    let done := t.step (around.recorded now) r now false (s, log)
    Stands r now done.1 done.2.2.2 := by
  cases hphase : t.feed.phase with
  | subscribing =>
    unfold Stands at h
    rw [hphase] at h
    obtain ⟨past, hdue, rfl⟩ := h
    rw [Task.step, hphase]
    exact ⟨past, now, [], hdue, rfl, abreast_start _, rfl⟩
  | syncing =>
    rw [Task.step, hphase]
    exact stands_sync hphase h
  | handling event =>
    rw [Task.step, hphase]
    exact stands_handle hphase h
  | listening => exact stands_listen hphase h
  | pausing wake =>
    have hstands := h
    unfold Stands at h
    rw [hphase] at h
    obtain ⟨past, last, hhistory, hpause, hwake, hnow, rfl⟩ := h
    rw [Task.step, hphase]
    dsimp only
    split
    · next hstopped => exact absurd hstopped Bool.noConfusion
    · split
      · next hover =>
        -- The pause ends in time, so the next stream begins when it is meant to.
        have htime : now = wake := Nat.le_antisymm hnow hover
        refine ⟨past ++ [last], ⟨hhistory, fun a ha => ?_, hpause⟩, rfl⟩
        rw [List.getLast?_concat] at ha
        rw [htime, hwake, Option.some.inj ha]
      · exact hstands
  | ended =>
    unfold Stands at h
    rw [hphase] at h
    exact h.elim
  | crashed =>
    rw [Task.step, hphase]
    exact h

theorem Stands.pass {later : Nat} (h : Stands r now t log)
    (hidle : (t.step around r now false s).2.1 = false)
    (hwake : ∀ wake, t.feed.phase = .pausing wake → later ≤ wake) : Stands r later t log := by
  unfold Stands at h ⊢
  cases hphase : t.feed.phase with
  | subscribing =>
    rw [Task.step, hphase] at hidle
    exact absurd hidle Bool.noConfusion
  | pausing wake =>
    rw [hphase] at h
    obtain ⟨past, last, hhistory, hpause, htime, -, hlog⟩ := h
    exact ⟨past, last, hhistory, hpause, htime, hwake wake hphase, hlog⟩
  | syncing => rwa [hphase] at h
  | handling event => rwa [hphase] at h
  | listening => rwa [hphase] at h
  | ended => rwa [hphase] at h
  | crashed => rwa [hphase] at h

theorem stands_of_course (h : Course around r now t s log) : Stands r now t log := by
  induction h with
  | start now s => exact stands_start now
  | @step now t t' s s' log more h hstep ih =>
    rw [step_recorded around now r false t s log] at hstep
    obtain ⟨rfl, -⟩ := Prod.mk.inj hstep
    exact stands_step around s ih
  | beside h s' ih => exact ih
  | pass h hidle hle hwake ih => exact ih.pass hidle hwake

/-- What a feed does, as it is on record, is to read one stream after the other: it subscribes, asks
once about the container of every service, and handles the events, each to the end before it reads
the next one; once the stream ends or fails it pauses, from 1 second to 30, twice as long as before
unless an event came. It takes these steps one by one as long as nothing keeps it waiting. -/
theorem course_in_spells (h : Course around r now t s log) :
    ∃ spells, History r spells ∧ log <+: record spells ∧
      (∀ n, 1 ≤ pauseAfter (spells.take n) ∧ pauseAfter (spells.take n) ≤ 30) ∧
      (∀ wake, t.feed.phase = .pausing wake → log = record spells ∧ now ≤ wake ∧
        ∃ last, spells.getLast? = some last ∧
          wake = last.ended + 1000 * pauseAfter spells) ∧
      ((t.step around r now false s).2.1 = true →
        Onward t.feed.phase (t.step around r now false s).1.feed.phase) ∧
      ((t.step around r now false s).2.1 = false → Waits around now t s) := by
  have hstands := stands_of_course h
  have hphase : t.feed.phase ≠ .ended := by
    intro hended
    unfold Stands at hstands
    rw [hended] at hstands
    exact hstands
  have hsteps := step_onward around r now s hphase
  by_cases hpausing : ∃ wake, t.feed.phase = .pausing wake
  · obtain ⟨wake, hwake⟩ := hpausing
    unfold Stands at hstands
    rw [hwake] at hstands
    obtain ⟨past, last, hhistory, -, htime, hnow, hlog⟩ := hstands
    refine ⟨past ++ [last], hhistory, hlog ▸ List.prefix_rfl, fun n => pauseAfter_bounds _,
      fun wake' hwake' => ?_, hsteps⟩
    obtain rfl : wake = wake' := Phase.pausing.inj (hwake.symm.trans hwake')
    exact ⟨hlog, hnow, last, List.getLast?_concat, htime⟩
  · obtain ⟨spells, hhistory, hlog⟩ := hstands.spells
    exact ⟨spells, hhistory, hlog, fun n => pauseAfter_bounds _,
      fun wake hwake => absurd ⟨wake, hwake⟩ hpausing, hsteps⟩

end

section
open Scenario (StagedEngine World)

/-- A stack of one service, and an engine without its container. -/
private def quiet : World :=
  let registry : Registry :=
    ⟨[⟨"arby", .plain .arby, ⟨"simnet_arby_1", false, "native"⟩⟩], by decide⟩
  World.ofRegistry 0 registry [] false none

/-- The container dies, and the stream of events ends. -/
private def death : Event := ⟨"77aa", some "simnet_arby_1", .died⟩

/-- A stream that brings an event, and one that brings none: the first pause is short, and the next
one twice as long. -/
theorem course_in_spells_twice :
    ∃ t w log, Course World.feedSurroundings quiet.registry 1000 t w log ∧
      t.feed = ⟨.pausing 3000, 4, false⟩ ∧
      log = [.subscribed 0 (some 0), .asked ⟨.inspect "simnet_arby_1", .ok none⟩,
        .asked ⟨.take 0 none, ()⟩, .received (some 0) death,
        .asked ⟨.inspect "simnet_arby_1", .ok none⟩, .asked ⟨.take 0 none, ()⟩,
        .ended 0 (some 0) none, .subscribed 1000 (some 1),
        .asked ⟨.inspect "simnet_arby_1", .ok none⟩, .asked ⟨.take 0 none, ()⟩,
        .ended 1000 (some 1) none] ∧
      ∃ spells, History quiet.registry spells ∧ log = record spells ∧
        ∃ last, spells.getLast? = some last ∧ 3000 = last.ended + 1000 * pauseAfter spells := by
  let told : World :=
    { quiet with engine := (quiet.engine.subscribe.2.push (.ok death)).endEvents }
  let silent : World := { quiet with engine := told.engine.subscribe.2.endEvents }
  have h₀ : Course World.feedSurroundings quiet.registry 0 Task.start quiet [] := .start 0 quiet
  have h₁ := h₀.step rfl
  have h₂ := (h₁.step rfl).beside told
  have h₃ := h₂.step rfl
  have h₄ := h₃.step rfl
  have h₅ := h₄.step rfl
  have h₆ : Course World.feedSurroundings quiet.registry 1000 _ _ _ :=
    h₅.pass rfl (Nat.zero_le _) fun wake h => by
      cases h
      exact Nat.le_refl _
  have h₇ := h₆.step rfl
  have h₈ := h₇.step rfl
  have h₉ := (h₈.step rfl).beside silent
  have h₁₀ := h₉.step rfl
  obtain ⟨spells, hhistory, -, -, hpausing, -⟩ := course_in_spells h₁₀
  obtain ⟨hlog, -, hlast⟩ := hpausing 3000 rfl
  exact ⟨_, _, _, h₁₀, rfl, rfl, spells, hhistory, hlog, hlast⟩

end

end NodeStack.Stack.Feed
