import NodeStack.Proofs.Stack.Duty
import NodeStack.Stack.Feed

/-!
# `NodeStack.Proofs.Stack.Following`: a feed that has handled all events knows every container

`Following` is a feed at work beside an engine whose containers come and go. `Step` lists what can
happen: the engine changes at any moment and tells it by an event, the feed subscribes, its
procedures ask one question after another, it receives events in order, it loses its stream and
subscribes anew. Nothing orders these steps but the feed itself.

* `Duty.view` and `Duty.pending`: what a duty is about to make of the latest records, and the event
  that it has yet to settle. An event that is being handled counts as one to come until the engine
  has been asked what it is about.
* `Keeps`: the invariant, phase by phase. `keeps_step`: every step keeps it, with `keeps_change`,
  `keeps_answer` and `keeps_receive` for the steps that matter.
* `latest_eq_named`: so once a feed listens and no event is to come, the latest record of every
  service is the one that the engine has.
-/

set_option autoImplicit false

namespace NodeStack.Stack

open Engine (Census Change Event Faithful Record Tracks Watch)

/-! ### The system -/

/-- A feed at work beside an engine. -/
structure Following where
  census : Census
  /-- The events told since the feed subscribed and not received yet, oldest first. -/
  stream : List Event
  watches : Table Watch
  feed : Feed
  /-- What has to end before the feed goes on. -/
  work : List (Tracking Unit)

namespace Following

/-- A feed about to begin, beside an engine that may have any containers. -/
structure Initial (r : Registry) (s : Following) : Prop where
  sound : s.census.Sound r.containers
  watches : s.watches = fun i => (r.get? i).map fun service => Watch.ofName service.handle.container
  feed : s.feed = Feed.start

/-- A step of the engine or of the feed. -/
inductive Step (r : Registry) (s : Following) : Following → Prop where
  /-- Something happens to a container. -/
  | change (change : Change) (withName : Bool) (h : s.census.Possible r.containers change) :
    Step r s { s with
      census := s.census.after change
      stream := s.stream ++ [change.event withName] }
  /-- The feed subscribes. -/
  | subscribe (h : s.feed.phase = .subscribing) :
    Step r s { s with feed := s.feed.subscribed, stream := [], work := syncs r }
  /-- One of the procedures under way has its question answered. -/
  | answer (k : Nat) {q : Track} {next : q.Answer → Tracking Unit} {a : q.Answer}
    {watches : Table Watch} (hk : s.work[k]? = some (.ask q next))
    (ha : Answered r s.census s.watches q a watches) :
    Step r s { s with watches := watches, work := s.work.set k (next a) }
  /-- All services have been refreshed. -/
  | synced (h : s.feed.phase = .syncing) (hover : ∀ p ∈ s.work, p = .done ()) :
    Step r s { s with feed := s.feed.synced, work := [] }
  /-- The oldest event comes. -/
  | receive {event : Event} {rest : List Event} (h : s.feed.phase = .listening)
    (hs : s.stream = event :: rest) :
    Step r s { s with feed := s.feed.received event, stream := rest, work := [handle r event] }
  /-- The event has been handled. -/
  | handled {event : Event} (h : s.feed.phase = .handling event)
    (hover : ∀ p ∈ s.work, p = .done ()) :
    Step r s { s with feed := s.feed.handled, work := [] }
  /-- The stream ends or fails. -/
  | lose (now : Nat) (h : s.feed.phase = .listening) :
    Step r s { s with feed := s.feed.endStream now }
  /-- The pause is over. -/
  | wake {point : Nat} (h : s.feed.phase = .pausing point) :
    Step r s { s with feed := s.feed.woken }

/-- What can come of a feed about to begin. -/
inductive Reachable (r : Registry) : Following → Prop where
  | initial {s : Following} (h : Initial r s) : Reachable r s
  | step {s s' : Following} (h : Reachable r s) (hstep : Step r s s') : Reachable r s'

end Following

/-! ### The invariant -/

namespace Duty

/-- What a duty is about to make of the latest record of a service. -/
def view (watches : Table Watch) (i : Nat) : Duty → Option Record
  | .taking service record => if i = service then record else latest? watches i
  | _ => latest? watches i

/-- The event that a duty has yet to settle. -/
def pending (event : Event) : Duty → List Event
  | .ended | .taking .. => []
  | _ => [event]

/-- A duty that comes up while an event is handled. -/
def Suits (r : Registry) (c : Census) (event : Event) : Duty → Prop
  | .ended | .taking .. => True
  | .refreshing service container =>
    c.owner event.id = some container ∧
      ∃ s, r.get? service = some s ∧ s.handle.container = container
  | .forgetting e => e = event ∧ event.kind = .destroyed
  | .resolving id => id = event.id ∧ event.kind ≠ .destroyed

/-- A duty of a fresh start: it has yet to ask about the service, or what it makes of the latest
record is tracked. -/
def Syncs (c : Census) (stream : List Event) (watches : Table Watch) (i : Nat) (s : Service)
    (d : Duty) : Prop :=
  d = .refreshing i s.handle.container ∨
  (d = .ended ∨ ∃ record, d = .taking i record) ∧
    Tracks c stream s.handle.container (d.view watches i)

end Duty

/-- The records known of all services are tracked. -/
def AllTracked (r : Registry) (c : Census) (queue : List Event) (known : Nat → Option Record) :
    Prop :=
  ∀ i s, r.get? i = some s → Tracks c queue s.handle.container (known i)

namespace Following

/-- What a feed keeps, by its phase. -/
def Phased (r : Registry) (s : Following) : Feed.Phase → Prop
  | .syncing => Faithful s.census s.stream ∧
    ∃ duties : List Duty, s.work = duties.map (Duty.plan r) ∧ duties.length = r.size ∧
      ∀ i d, duties[i]? = some d →
        ∃ t, r.get? i = some t ∧ d.Syncs s.census s.stream s.watches i t
  | .listening => Faithful s.census s.stream ∧ s.work = [] ∧
    AllTracked r s.census s.stream (latest? s.watches)
  | .handling event => Faithful s.census (event :: s.stream) ∧
    ∃ d : Duty, s.work = [d.plan r] ∧ d.Suits r s.census event ∧
      AllTracked r s.census (d.pending event ++ s.stream) fun i => d.view s.watches i
  | _ => True

/-- What every step keeps. -/
structure Keeps (r : Registry) (s : Following) : Prop where
  sound : s.census.Sound r.containers
  watched : ∀ i t, r.get? i = some t → (s.watches.get? i).isSome
  phased : s.Phased r s.feed.phase

end Following

section
variable {r : Registry} {c : Census} {watches watches' : Table Watch} {event : Event}
  {queue : List Event}

theorem AllTracked.after {known : Nat → Option Record} {change : Change}
    (hc : c.Sound r.containers) (hp : c.Possible r.containers change)
    (h : AllTracked r c queue known) (withName : Bool) :
    AllTracked r (c.after change) (queue ++ [change.event withName]) known :=
  fun i s hs => Engine.tracks_after hc hp (h i s hs) withName

theorem Duty.Suits.after {change : Change} {d : Duty} (hc : c.Sound r.containers)
    (hp : c.Possible r.containers change) (h : d.Suits r c event) :
    d.Suits r (c.after change) event := by
  cases d with
  | refreshing service container => exact ⟨Census.owner_after hc hp h.1, h.2⟩
  | _ => exact h

/-- A procedure of a fresh start goes on, and leaves the services of the others alone. -/
theorem Duty.Syncs.proceeds {i : Nat} {s : Service} {d d' : Duty} (hc : c.Sound r.containers)
    (hs : r.get? i = some s) (hwatch : (watches.get? i).isSome)
    (h : d.Syncs c queue watches i s) (hd : Proceeds r c watches d d' watches') :
    d'.Syncs c queue watches' i s ∧
      ∀ j, j ≠ i → latest? watches' j = latest? watches j := by
  rcases h with rfl | ⟨rfl | ⟨record, rfl⟩, htracks⟩
  · cases hd with
    | @read _ _ found hf =>
      refine ⟨Or.inr ⟨Or.inr ⟨found, rfl⟩, ?_⟩, fun _ _ => rfl⟩
      rw [Census.finds_tracked hc (Registry.mem_containers hs) hf]
      show Tracks c queue _ (if i = i then _ else _)
      rw [if_pos rfl]
      exact Engine.tracks_named hc queue _
  · cases hd
  · cases hd
    refine ⟨Or.inr ⟨Or.inl rfl, ?_⟩, fun j hj => latest?_takeOver_other hj record⟩
    have hview : (Duty.taking i record).view watches i = record := if_pos rfl
    rw [hview] at htracks
    show Tracks c queue _ (latest? _ i)
    rwa [latest?_takeOver_self hwatch]

/-- What a duty is about to make of a service depends on the latest record of that service only. -/
theorem Duty.view_congr {i : Nat} (d : Duty) (h : latest? watches' i = latest? watches i) :
    d.view watches' i = d.view watches i := by
  cases d with
  | taking service record =>
    show (if i = service then _ else _) = if i = service then _ else _
    rw [h]
  | _ => exact h

/-- Once a service is about to be told what the engine has, or that its container is gone, the event
is settled for all others too. -/
theorem allTracked_taking {known : Nat → Option Record} {i : Nat} {s : Service}
    {record : Option Record} (hr : r.containers.Nodup) (hs : r.get? i = some s)
    (howner : c.owner event.id = some s.handle.container)
    (h : AllTracked r c (event :: queue) known) (hi : Tracks c queue s.handle.container record) :
    AllTracked r c queue fun j => if j = i then record else known j := by
  intro j t ht
  show Tracks c queue _ (if j = i then _ else _)
  by_cases hj : j = i
  · subst hj
    rw [hs] at ht
    cases ht
    rwa [if_pos rfl]
  · rw [if_neg hj]
    refine Engine.tracks_tail (h j t ht) ?_
    rw [howner]
    exact fun he => hj (Registry.index_unique hr hs ht (Option.some.inj he)).symm

/-- An event of a name that no service has is settled. -/
theorem allTracked_unserved {known : Nat → Option Record} {name : String}
    (h : AllTracked r c (event :: queue) known) (howner : c.owner event.id = some name)
    (hname : r.byContainer? name = none) : AllTracked r c queue known := by
  intro i s hs
  refine Engine.tracks_tail (h i s hs) ?_
  rw [howner]
  exact fun he => Registry.byContainer?_eq_none hname hs (Option.some.inj he).symm

/-- To refresh the service of a container is nothing if the container has no service. -/
theorem Duty.ofContainer_cases (r : Registry) (name : String) :
    (r.byContainer? name = none ∧ Duty.ofContainer r name = .ended) ∨
    ∃ i s, r.get? i = some s ∧ s.handle.container = name ∧
      Duty.ofContainer r name = .refreshing i name := by
  cases hn : r.byContainer? name with
  | none => exact Or.inl ⟨rfl, by rw [Duty.ofContainer, hn]⟩
  | some i =>
    obtain ⟨s, hs, rfl⟩ := Registry.byContainer?_eq_some hn
    refine Or.inr ⟨i, s, hs, rfl, ?_⟩
    rw [Duty.ofContainer, hn]
    show Duty.ofService r i = _
    rw [Duty.ofService, hs]

/-- A named event brings up a duty that suits it. -/
theorem settles_ofContainer {name : String} (howner : c.owner event.id = some name)
    (h : AllTracked r c (event :: queue) (latest? watches)) :
    (Duty.ofContainer r name).Suits r c event ∧
      AllTracked r c ((Duty.ofContainer r name).pending event ++ queue)
        fun i => (Duty.ofContainer r name).view watches i := by
  rcases Duty.ofContainer_cases r name with ⟨hname, he⟩ | ⟨i, s, hs, hname, he⟩
  · rw [he]
    exact ⟨trivial, allTracked_unserved h howner hname⟩
  · rw [he]
    exact ⟨⟨howner, s, hs, hname⟩, h⟩

/-- An event that is received brings up a duty that suits it. -/
theorem settles_ofEvent (hf : Faithful c (event :: queue))
    (h : AllTracked r c (event :: queue) (latest? watches)) :
    (Duty.ofEvent r event).Suits r c event ∧
      AllTracked r c ((Duty.ofEvent r event).pending event ++ queue)
        fun i => (Duty.ofEvent r event).view watches i := by
  unfold Duty.ofEvent
  by_cases hk : event.kind = .destroyed
  · rw [if_pos hk]
    exact ⟨⟨rfl, hk⟩, h⟩
  · rw [if_neg hk]
    obtain ⟨n, howner, hname⟩ := hf.known event List.mem_cons_self
    cases hn : event.name with
    | none => exact ⟨⟨rfl, hk⟩, h⟩
    | some name =>
      obtain rfl := hname name hn
      exact settles_ofContainer howner h

/-- The end of a container is settled once its service is found, by the id that is known or by the
name, and told that the container is gone. -/
theorem settles_gone {i : Nat} {s : Service} (hr : r.containers.Nodup)
    (hf : Faithful c (event :: queue)) (hk : event.kind = .destroyed) (hs : r.get? i = some s)
    (howner : c.owner event.id = some s.handle.container)
    (h : AllTracked r c (event :: queue) (latest? watches)) :
    AllTracked r c queue fun j => (Duty.taking i none).view watches j :=
  allTracked_taking hr hs howner h (Engine.tracks_gone hf hk howner)

/-- While an event is handled, a duty that suits it goes on to one that suits it. -/
theorem settles_proceeds {d d' : Duty} (hr : r.containers.Nodup) (hc : c.Sound r.containers)
    (hwatch : ∀ i s, r.get? i = some s → (watches.get? i).isSome)
    (hf : Faithful c (event :: queue)) (hsuits : d.Suits r c event)
    (h : AllTracked r c (d.pending event ++ queue) fun i => d.view watches i)
    (hd : Proceeds r c watches d d' watches') :
    d'.Suits r c event ∧
      AllTracked r c (d'.pending event ++ queue) fun i => d'.view watches' i := by
  cases hd with
  | @read service container found hfound =>
    obtain ⟨howner, s, hs, rfl⟩ := hsuits
    refine ⟨trivial, allTracked_taking hr hs howner h ?_⟩
    rw [Census.finds_tracked hc (Registry.mem_containers hs) hfound]
    exact Engine.tracks_named hc queue _
  | took service record =>
    refine ⟨trivial, fun i s hs => ?_⟩
    have htracks : Tracks c queue s.handle.container
        (if i = service then record else latest? watches i) := h i s hs
    show Tracks c queue s.handle.container (latest? (takeOver service record watches) i)
    by_cases hi : i = service
    · subst hi
      rw [latest?_takeOver_self (hwatch i s hs)]
      rwa [if_pos rfl] at htracks
    · rw [latest?_takeOver_other hi]
      rwa [if_neg hi] at htracks
  | held hholder =>
    obtain ⟨rfl, hk⟩ := hsuits
    obtain ⟨s, record, hs, hlatest, hid⟩ := holder?_eq_some hholder
    obtain ⟨-, howner, -⟩ := (h _ s hs).origin record hlatest
    rw [hid] at howner
    exact ⟨trivial, settles_gone hr hf hk hs howner h⟩
  | unheld hholder =>
    obtain ⟨rfl, hk⟩ := hsuits
    unfold Duty.ofGone
    cases hn : Option.bind _ r.byContainer? with
    | some i =>
      obtain ⟨name, hname, hi⟩ := Option.bind_eq_some_iff.mp hn
      obtain ⟨s, hs, rfl⟩ := Registry.byContainer?_eq_some hi
      obtain ⟨n, howner, hknown⟩ := hf.known _ List.mem_cons_self
      obtain rfl := hknown _ hname
      exact ⟨trivial, settles_gone hr hf hk hs howner h⟩
    | none =>
      refine ⟨trivial, fun i s hs => Engine.tracks_missed_end hf hk (h i s hs) ?_⟩
      intro record hlatest
      exact holder?_eq_none hholder hs hlatest
  | @found _ record hfound =>
    obtain ⟨rfl, hk⟩ := hsuits
    rcases Duty.ofContainer_cases r record.name with ⟨hname, he⟩ | ⟨i, s, hs, hname, he⟩
    · rw [he]
      refine ⟨trivial, fun i s hs => Engine.tracks_missed hf hk (h i s hs) fun hheld => ?_⟩
      -- The engine would have answered with the container of this service.
      obtain ⟨record', hsame, hname'⟩ := Census.finds_living hc hheld hfound
      cases hsame
      exact Registry.byContainer?_eq_none hname hs hname'.symm
    · rw [he]
      refine ⟨⟨?_, s, hs, hname⟩, h⟩
      obtain ⟨hrecord, hkey | hkey⟩ := hfound
      · -- An id is no tracked name.
        obtain ⟨n, howner, -⟩ := hf.known _ List.mem_cons_self
        rw [← hkey, ← hname] at howner
        exact absurd (Registry.mem_containers hs) (hc.foreign _ n howner)
      · rw [← hkey]
        exact (hc.owned _ record hrecord).2
  | unfound hfound =>
    obtain ⟨rfl, hk⟩ := hsuits
    exact ⟨trivial, fun i s hs =>
      Engine.tracks_missed hf hk (h i s hs) (hfound.2 s.handle.container)⟩

end

/-! ### What every step keeps -/

namespace Following

section
variable {r : Registry} {s s' : Following}

theorem keeps_change {change : Change} (h : s.Keeps r)
    (hp : s.census.Possible r.containers change) (withName : Bool) :
    Keeps r { s with
      census := s.census.after change
      stream := s.stream ++ [change.event withName] } := by
  obtain ⟨hc, hwatch, hphase⟩ := h
  refine ⟨Census.sound_after hc hp, hwatch, ?_⟩
  show Phased r _ s.feed.phase
  cases hph : s.feed.phase with
  | syncing =>
    rw [hph] at hphase
    obtain ⟨hf, duties, hwork, hlen, hduties⟩ := hphase
    refine ⟨Engine.faithful_after hc hp hf withName, duties, hwork, hlen, fun i d hd => ?_⟩
    obtain ⟨t, ht, hsyncs⟩ := hduties i d hd
    refine ⟨t, ht, hsyncs.imp_right fun ⟨hkind, htracks⟩ => ⟨hkind, ?_⟩⟩
    exact Engine.tracks_after hc hp htracks withName
  | listening =>
    rw [hph] at hphase
    obtain ⟨hf, hwork, hall⟩ := hphase
    exact ⟨Engine.faithful_after hc hp hf withName, hwork, hall.after hc hp withName⟩
  | handling event =>
    rw [hph] at hphase
    obtain ⟨hf, d, hwork, hsuits, hall⟩ := hphase
    refine ⟨Engine.faithful_after hc hp hf withName, d, hwork, hsuits.after hc hp, ?_⟩
    show AllTracked r _ (d.pending event ++ (s.stream ++ [change.event withName])) _
    rw [← List.append_assoc]
    exact hall.after hc hp withName
  | _ => trivial

/-- To subscribe brings up the duties of a fresh start, none of which has asked yet. -/
theorem keeps_subscribe (h : s.Keeps r) :
    Keeps r { s with feed := s.feed.subscribed, stream := [], work := syncs r } := by
  refine ⟨h.sound, h.watched, Engine.faithful_nil s.census, _, syncs_eq r, by simp, ?_⟩
  intro i d hd
  rw [List.getElem?_map] at hd
  obtain ⟨j, hj, rfl⟩ := Option.map_eq_some_iff.mp hd
  obtain ⟨hi, rfl⟩ := List.getElem?_eq_some_iff.mp hj
  rw [List.length_range] at hi
  rw [List.getElem_range]
  have hget : r.get? i = some r.services[i] := List.getElem?_eq_getElem hi
  refine ⟨_, hget, Or.inl ?_⟩
  rw [Duty.ofService, hget]

theorem keeps_answer (hr : r.containers.Nodup) (h : s.Keeps r) {k : Nat} {q : Track}
    {next : q.Answer → Tracking Unit} {a : q.Answer} {watches : Table Watch}
    (hk : s.work[k]? = some (.ask q next)) (ha : Answered r s.census s.watches q a watches) :
    Keeps r { s with watches := watches, work := s.work.set k (next a) } := by
  obtain ⟨hc, hwatch, hphase⟩ := h
  have hwatch' : ∀ i t, r.get? i = some t → (watches.get? i).isSome := by
    intro i t ht
    cases ha with
    | take service record => exact isSome_takeOver (hwatch i t ht) record
    | _ => exact hwatch i t ht
  refine ⟨hc, hwatch', ?_⟩
  show Phased r _ s.feed.phase
  cases hph : s.feed.phase with
  | syncing =>
    rw [hph] at hphase
    obtain ⟨hf, duties, hwork, hlen, hduties⟩ := hphase
    rw [hwork, List.getElem?_map] at hk
    obtain ⟨d, hd, hplan⟩ := Option.map_eq_some_iff.mp hk
    obtain ⟨d', hnext, hproceeds⟩ := proceeds_of_answered hplan ha
    obtain ⟨t, ht, hsyncs⟩ := hduties k d hd
    obtain ⟨hsyncs', hothers⟩ := hsyncs.proceeds hc ht (hwatch k t ht) hproceeds
    refine ⟨hf, duties.set k d', ?_, by rw [List.length_set, hlen], fun i e he => ?_⟩
    · show s.work.set k (next a) = _
      rw [hwork, hnext, List.map_set]
    · by_cases hi : i = k
      · subst hi
        rw [List.getElem?_set_self (List.getElem?_eq_some_iff.mp hd).1] at he
        cases he
        exact ⟨t, ht, hsyncs'⟩
      · rw [List.getElem?_set_ne (Ne.symm hi)] at he
        obtain ⟨u, hu, hsame⟩ := hduties i e he
        refine ⟨u, hu, hsame.imp_right fun ⟨hkind, htracks⟩ => ⟨hkind, ?_⟩⟩
        rwa [e.view_congr (hothers i hi)]
  | listening =>
    rw [hph] at hphase
    obtain ⟨-, hwork, -⟩ := hphase
    rw [hwork] at hk
    cases hk
  | handling event =>
    rw [hph] at hphase
    obtain ⟨hf, d, hwork, hsuits, hall⟩ := hphase
    rw [hwork] at hk
    cases k with
    | zero =>
      obtain ⟨d', hnext, hproceeds⟩ := proceeds_of_answered (Option.some.inj hk) ha
      refine ⟨hf, d', ?_, settles_proceeds hr hc hwatch hf hsuits hall hproceeds⟩
      show s.work.set 0 (next a) = _
      rw [hwork, hnext]
      rfl
    | succ k => cases hk
  | _ => trivial

/-- When the procedures of a fresh start have ended, all services are tracked. -/
theorem keeps_synced (h : s.Keeps r) (hph : s.feed.phase = .syncing)
    (hover : ∀ p ∈ s.work, p = .done ()) :
    Keeps r { s with feed := s.feed.synced, work := [] } := by
  obtain ⟨hc, hwatch, hphase⟩ := h
  rw [hph] at hphase
  obtain ⟨hf, duties, hwork, hlen, hduties⟩ := hphase
  refine ⟨hc, hwatch, hf, rfl, fun i t ht => ?_⟩
  have hi : i < duties.length := hlen ▸ Registry.lt_size ht
  have hd : duties[i]? = some duties[i] := List.getElem?_eq_getElem hi
  have hend : duties[i] = .ended := by
    refine eq_ended_of_done (r := r) (hover _ ?_)
    rw [hwork]
    exact List.mem_map_of_mem (List.getElem_mem hi)
  obtain ⟨u, hu, hsyncs⟩ := hduties i _ hd
  rw [ht] at hu
  cases hu
  rw [hend] at hsyncs
  rcases hsyncs with he | ⟨-, htracks⟩
  · cases he
  · exact htracks

theorem keeps_receive {event : Event} {rest : List Event} (h : s.Keeps r)
    (hph : s.feed.phase = .listening) (hs : s.stream = event :: rest) :
    Keeps r { s with feed := s.feed.received event, stream := rest, work := [handle r event] } := by
  obtain ⟨hc, hwatch, hphase⟩ := h
  rw [hph] at hphase
  obtain ⟨hf, -, hall⟩ := hphase
  rw [hs] at hf hall
  refine ⟨hc, hwatch, hf, Duty.ofEvent r event, ?_, settles_ofEvent hf hall⟩
  rw [handle_eq]

theorem keeps_handled {event : Event} (h : s.Keeps r) (hph : s.feed.phase = .handling event)
    (hover : ∀ p ∈ s.work, p = .done ()) :
    Keeps r { s with feed := s.feed.handled, work := [] } := by
  obtain ⟨hc, hwatch, hphase⟩ := h
  rw [hph] at hphase
  obtain ⟨hf, d, hwork, -, hall⟩ := hphase
  have hend : d = .ended := by
    refine eq_ended_of_done (r := r) (hover _ ?_)
    rw [hwork]
    exact List.mem_cons_self
  rw [hend] at hall
  exact ⟨hc, hwatch, Engine.faithful_tail hf, rfl, hall⟩

theorem keeps_step (hr : r.containers.Nodup) (h : s.Keeps r) (hstep : Step r s s') :
    s'.Keeps r := by
  cases hstep with
  | change change withName hp => exact keeps_change h hp withName
  | subscribe => exact keeps_subscribe h
  | answer k hk ha => exact keeps_answer hr h hk ha
  | synced hph hover => exact keeps_synced h hph hover
  | receive hph hs => exact keeps_receive h hph hs
  | handled hph hover => exact keeps_handled h hph hover
  | lose => exact ⟨h.sound, h.watched, trivial⟩
  | wake => exact ⟨h.sound, h.watched, trivial⟩

theorem keeps_initial (h : Initial r s) : s.Keeps r := by
  obtain ⟨hc, hwatches, hfeed⟩ := h
  refine ⟨hc, fun i t ht => ?_, ?_⟩
  · rw [hwatches]
    show ((r.get? i).map _).isSome
    rw [ht]
    rfl
  · rw [hfeed]
    trivial

theorem keeps_reachable (hr : r.containers.Nodup) (h : Reachable r s) : s.Keeps r := by
  induction h with
  | initial h => exact keeps_initial h
  | step _ hstep ih => exact keeps_step hr ih hstep

/-- Once a feed has brought everything up to date and has handled every event, the latest record of
every service is what the engine has under the name of its container: none exactly when there is no
such container. -/
theorem latest_eq_named (hr : r.containers.Nodup) (h : Reachable r s)
    (hph : s.feed.phase = .listening) (hs : s.stream = []) (i : Nat) (service : Service)
    (hi : r.get? i = some service) :
    latest? s.watches i = s.census.named service.handle.container := by
  obtain ⟨-, -, hphase⟩ := keeps_reachable hr h
  rw [hph] at hphase
  obtain ⟨-, -, hall⟩ := hphase
  rw [hs] at hall
  exact (hall i service hi).current

end

/-- A stack of one service. -/
private def lone : Registry :=
  ⟨[⟨"lndbtc", .channels, ⟨"simnet_lndbtc_1", false, "native"⟩⟩], by decide⟩

/-- A container of that service. -/
private def loneRecord : Record := ⟨"4f2a", "simnet_lndbtc_1", "created", none, []⟩

/-- A container is created after the engine has been asked for it and before the answer is taken
over, and the event that tells it gives no name. Once the event has been handled the container is
known. -/
theorem latest_eq_named_late :
    ∃ s, Reachable lone s ∧ s.feed.phase = .listening ∧ s.stream = [] ∧
      latest? s.watches 0 = some loneRecord := by
  have hempty : Census.empty.Finds "simnet_lndbtc_1" none :=
    ⟨rfl, fun n => Census.not_holds_empty n _⟩
  have hp : Census.empty.Possible lone.containers ⟨.created, loneRecord⟩ := by
    rw [Census.Possible, if_pos rfl]
    exact ⟨rfl, rfl, by decide, rfl, fun n => Census.not_holds_empty n _⟩
  have hfound : (Census.empty.after ⟨.created, loneRecord⟩).Finds "4f2a" (some loneRecord) :=
    ⟨rfl, Or.inr rfl⟩
  have hfound' : (Census.empty.after ⟨.created, loneRecord⟩).Finds "simnet_lndbtc_1"
    (some loneRecord) := ⟨rfl, Or.inl rfl⟩
  -- The fresh start: asked too early, and the answer taken over too late.
  have h₀ : Reachable lone ⟨Census.empty, [], _, Feed.start, []⟩ :=
    .initial ⟨Census.sound_empty _, rfl, rfl⟩
  have h₁ := h₀.step (.subscribe rfl)
  have h₂ := h₁.step (.answer 0 rfl (.inspect hempty))
  have h₃ := h₂.step (.change ⟨.created, loneRecord⟩ false hp)
  have h₄ := h₃.step (.answer 0 rfl (.take 0 none))
  have h₅ := h₄.step (.synced rfl (List.forall_mem_singleton.mpr rfl))
  -- The event.
  have h₆ := h₅.step (.receive rfl rfl)
  have h₇ := h₆.step (.answer 0 rfl (.inspect hfound))
  have h₈ := h₇.step (.answer 0 rfl (.inspect hfound'))
  have h₉ := h₈.step (.answer 0 rfl (.take 0 (some loneRecord)))
  have h₁₀ := h₉.step (.handled rfl (List.forall_mem_singleton.mpr rfl))
  exact ⟨_, h₁₀, rfl, rfl, latest_eq_named (by decide) h₁₀ rfl rfl 0 _ rfl⟩

end Following

end NodeStack.Stack
