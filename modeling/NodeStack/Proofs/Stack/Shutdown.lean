import NodeStack.Proofs.Stack.Closing
import NodeStack.Proofs.Stack.Stopping
import NodeStack.Scenario.World.Deeds

/-!
# `NodeStack.Proofs.Stack.Shutdown`: a stack is closed once its feed is over

Closing a stack tells its feed to stop, waits for the end of the feed, and then closes the services.

* `SameStack`: what the surroundings leave as it is. `Closes`: how services are closed.
* `Shutdown`: a stack that is being closed, while its feed goes on and anything happens beside.
  `Looked` is what a look at it can be. `Stands` is what each event keeps (`stands_look`,
  `stands_feed`, `stands_beside`), and `stands_run` is about any run.
* `closing_reaches_all`: every service is closed, once and in order, and the feed is over by then.
-/

set_option autoImplicit false

namespace NodeStack.Scenario

open Plan (Look)
open Stack (ClosesAs Feed)

namespace World

/-! ### What happens beside -/

/-- The stack is the same: its services, that it was told to stop, and its feeds. -/
structure SameStack (w w' : World) : Prop where
  registry : w'.registry = w.registry
  stopped : w'.stopped = w.stopped
  feeds : w'.feeds = w.feeds
  chief : w'.chief = w.chief

theorem SameStack.refl (w : World) : SameStack w w := ⟨rfl, rfl, rfl, rfl⟩

theorem SameStack.trans {w w' w'' : World} (h : SameStack w w') (h' : SameStack w' w'') :
    SameStack w w'' :=
  ⟨h'.registry.trans h.registry, h'.stopped.trans h.stopped, h'.feeds.trans h.feeds,
    h'.chief.trans h.chief⟩

/-- A stack in which at most one feed was ever put in charge. -/
inductive StartedOnce (w : World) : Prop where
  /-- None was. -/
  | never (hfeeds : w.feeds = []) (hchief : w.chief = none)
  /-- One is, and stands anywhere. -/
  | once (t : FeedTask) (hfeeds : w.feeds = [t]) (hchief : w.chief = some 0)
  /-- One was, and is over. -/
  | past (t : FeedTask) (hfeeds : w.feeds = [t]) (hchief : w.chief = none)
    (hover : t.feed.isOver = true)

theorem StartedOnce.few {w : World} (h : StartedOnce w) : w.feeds.length ≤ 1 := by
  cases h with
  | never hfeeds | once t hfeeds | past t hfeeds => simp [hfeeds]

/-- Every feed is over. -/
def Quiet (w : World) : Prop := ∀ t ∈ w.feeds, t.feed.isOver = true

/-- The feeds are told to stop, and nobody else waits for them. -/
def told (w : World) : World := { w with stopped := true, chief := none }

/-- What closing the services of a registry does, where `close` closes one of them: which of them
close badly is settled beforehand, and closing them leaves the stack as it is. -/
structure Closes (r : Stack.Registry) (fault? : Nat → Option Service.Fault)
    (close : Nat → World → Option Service.Fault × World) : Prop where
  fault : ∀ i w, w.registry = r → (close i w).1 = fault? i
  same : ∀ i w, SameStack w (close i w).2

/-- All services are closed, each once and in order. -/
def closed (close : Nat → World → Option Service.Fault × World) (r : Stack.Registry) (w : World) :
    World :=
  (List.range r.size).foldl (fun w i => (close i w).2) w

section
variable {r : Stack.Registry} {fault? : Nat → Option Service.Fault}
  {close : Nat → World → Option Service.Fault × World} {w : World}

theorem Closes.closeAll (h : Closes r fault? close) (hr : w.registry = r) :
    ∃ result, ClosesAs r fault? result ∧
      Stack.closeAll close w.registry w = (result, closed close r w) := by
  obtain ⟨result, hresult, he⟩ := Stack.closeAll_eq (P := fun w => w.registry = r) h.fault
    (fun i w hw => (h.same i w).registry.trans hw) r hr
  refine ⟨result, hresult, ?_⟩
  rw [hr]
  exact he

theorem Closes.same_closed (h : Closes r fault? close) : SameStack w (closed close r w) := by
  unfold closed
  generalize List.range r.size = places
  induction places generalizing w with
  | nil => exact .refl w
  | cons i rest ih => exact (h.same i w).trans ih

/-- The services of a stack are closed in this way. -/
theorem closes_closeService (r : Stack.Registry) :
    Closes r (fun i => (r.get? i).bind closeFault?) closeService where
  fault := by
    intro i w hw
    rw [closeService, hw]
  same := by
    intro i w
    rw [closeService]
    unfold count
    split <;> exact ⟨rfl, rfl, rfl, rfl⟩

/-- The services are closed, unless a feed is awaited that is not over. -/
def settle (close : Nat → World → Option Service.Fault × World) (awaited : Option Nat) (w : World) :
    Look (Except Stack.Fault Unit) DeedFlight × World :=
  match awaited with
  | some n =>
    if w.feedOver n then
      let (result, w) := Stack.closeAll close w.registry w
      (.answered result, w)
    else (.waiting (.closing n), w)
  | none =>
    let (result, w) := Stack.closeAll close w.registry w
    (.answered result, w)

theorem lookClosing_none : w.lookClosing close none = w.told.settle close w.chief := rfl

theorem lookClosing_closing (n : Nat) :
    w.lookClosing close (some (.closing n)) = w.settle close (some n) := rfl

theorem feedOver_zero (hfew : w.feeds.length ≤ 1) : w.feedOver 0 = true ↔ w.Quiet := by
  unfold feedOver Quiet
  generalize w.feeds = feeds at hfew
  obtain _ | ⟨t, _ | ⟨t', rest⟩⟩ := feeds
  · simp
  · simp
  · exact absurd hfew (by simp)

theorem settle_of_quiet (hclose : Closes r fault? close) (hr : w.registry = r)
    (hfew : w.feeds.length ≤ 1) (hquiet : w.Quiet) {awaited : Option Nat}
    (hawaited : awaited = none ∨ awaited = some 0) :
    ∃ result, ClosesAs r fault? result ∧
      w.settle close awaited = (.answered result, closed close r w) := by
  obtain ⟨result, hresult, he⟩ := hclose.closeAll hr
  refine ⟨result, hresult, ?_⟩
  rcases hawaited with rfl | rfl
  · rw [settle, he]
  · rw [settle, if_pos ((feedOver_zero hfew).mpr hquiet), he]

theorem settle_of_not_quiet (hfew : w.feeds.length ≤ 1) (hgoes : ¬w.Quiet) :
    w.settle close (some 0) = (.waiting (.closing 0), w) := by
  rw [settle, if_neg fun hover => hgoes ((feedOver_zero hfew).mp hover)]

end

end World

/-! ### A stack that is being closed -/

/-- A stack that is being closed. -/
structure Shutdown where
  world : World
  /-- What is under way for it. -/
  flight : Option DeedFlight
  /-- What it came to. -/
  answer : Option (Except Stack.Fault Unit)
  /-- How many steps the feed has taken meanwhile. -/
  turns : Nat
  /-- In how many of them it waited for what it had begun. -/
  waits : Nat
  /-- In how many of them it could have heeded that it is to stop, and did not. -/
  slips : Nat

namespace Shutdown

/-- What can happen meanwhile. -/
inductive Event where
  /-- The caller looks whether the stack is closed. -/
  | look
  /-- The feed takes a step. Where it has something else to go on with, `heeds` says whether it
  heeds that it is to stop. -/
  | feed (heeds : Bool)
  /-- Anything else changes the world. -/
  | beside (change : World → World)

/-- Nothing has been done yet. -/
def ofWorld (w : World) : Shutdown := ⟨w, none, none, 0, 0, 0⟩

/-- The caller looks whether the stack is closed. -/
def look (close : Nat → World → Option Service.Fault × World) (p : Shutdown) : Shutdown :=
  if p.answer.isSome then p
  else
    match p.world.lookClosing close p.flight with
    | (.answered result, w) => { p with world := w, answer := some result }
    | (.waiting flight, w) => { p with world := w, flight := some flight }
    | (.crashed _, w) => { p with world := w }

/-- The feed takes a step. -/
def goOn (heeds : Bool) (p : Shutdown) : Shutdown :=
  { p with
    world := p.world.goOn heeds
    turns := p.turns + 1
    waits := p.waits + (p.world.waits heeds).toNat
    slips := p.slips + (p.world.slips heeds).toNat }

/-- What an event does. -/
def after (close : Nat → World → Option Service.Fault × World) (p : Shutdown) : Event → Shutdown
  | .look => p.look close
  | .feed heeds => p.goOn heeds
  | .beside change => { p with world := change p.world }

/-- Event after event. -/
def run (close : Nat → World → Option Service.Fault × World) (events : List Event) (p : Shutdown) :
    Shutdown :=
  events.foldl (after close) p

/-- What a look at closing a stack can be: it waits while a feed is not over, and closes the
services otherwise. -/
inductive Looked (close : Nat → World → Option Service.Fault × World) (r : Stack.Registry)
    (fault? : Nat → Option Service.Fault) (p : Shutdown) : Shutdown → Prop where
  | waits (hgoes : ¬p.world.Quiet) :
    Looked close r fault? p { p with world := p.world.told, flight := some (.closing 0) }
  | closes (result : Except Stack.Fault Unit) (hquiet : p.world.Quiet)
    (hresult : ClosesAs r fault? result) :
    Looked close r fault? p
      { p with world := p.world.told.closed close r, answer := some result }

/-- What stands while a stack is being closed, and afterwards. -/
structure Stands (r : Stack.Registry) (fault? : Nat → Option Service.Fault) (p : Shutdown) :
    Prop where
  registry : p.world.registry = r
  stopped : p.world.stopped = true
  chief : p.world.chief = none
  few : p.world.feeds.length ≤ 1
  awaits : p.answer = none → p.flight = some (.closing 0)
  answered : ∀ result, p.answer = some result → ClosesAs r fault? result ∧ p.world.Quiet
  bound : ∀ t ∈ p.world.feeds, t.feed.isOver = false →
    p.turns + t.rank ≤ 3 + p.waits + 3 * p.slips

section
variable {r : Stack.Registry} {fault? : Nat → Option Service.Fault}
  {close : Nat → World → Option Service.Fault × World} {p p' : Shutdown}

/-- A look at a stack that awaits its feed, or has none to await. -/
theorem looked_of_settle (hclose : World.Closes r fault? close) (hr : p.world.registry = r)
    (hfew : p.world.feeds.length ≤ 1) (hanswer : p.answer = none) {awaited : Option Nat}
    (hlook : p.world.lookClosing close p.flight = p.world.told.settle close awaited)
    (hawaited : awaited = some 0 ∨ awaited = none ∧ p.world.Quiet) :
    Looked close r fault? p (p.look close) := by
  rw [look, if_neg (by rw [hanswer]; exact Bool.false_ne_true), hlook]
  by_cases hquiet : p.world.Quiet
  · obtain ⟨result, hresult, he⟩ := World.settle_of_quiet (w := p.world.told) hclose hr hfew hquiet
      (hawaited.symm.imp (·.1) id)
    rw [he]
    exact .closes result hquiet hresult
  · obtain rfl := hawaited.resolve_right fun h => hquiet h.2
    rw [World.settle_of_not_quiet (w := p.world.told) hfew hquiet]
    exact .waits hquiet

/-- The first look. -/
theorem looked_ofWorld {w : World} (hclose : World.Closes w.registry fault? close)
    (hstarted : w.StartedOnce) :
    Looked close w.registry fault? (ofWorld w) ((ofWorld w).look close) := by
  refine looked_of_settle hclose rfl hstarted.few rfl World.lookClosing_none ?_
  cases hstarted with
  | never hfeeds hchief =>
    refine .inr ⟨hchief, ?_⟩
    simp [World.Quiet, ofWorld, hfeeds]
  | once t hfeeds hchief => exact .inl hchief
  | past t hfeeds hchief hover =>
    refine .inr ⟨hchief, ?_⟩
    simp [World.Quiet, ofWorld, hfeeds, hover]

theorem Stands.told (h : Stands r fault? p) : p.world.told = p.world := by
  obtain ⟨⟨⟩⟩ := p
  obtain ⟨-, hstopped, hchief⟩ := h
  dsimp only at hstopped hchief
  rw [World.told, hstopped, hchief]

/-- A later look. -/
theorem Stands.looked (h : Stands r fault? p) (hclose : World.Closes r fault? close)
    (hanswer : p.answer = none) : Looked close r fault? p (p.look close) := by
  refine looked_of_settle hclose h.registry h.few hanswer ?_ (.inl rfl)
  rw [h.told, h.awaits hanswer, World.lookClosing_closing]

theorem Looked.stands (h : Looked close r fault? p p') (hclose : World.Closes r fault? close)
    (hr : p.world.registry = r) (hfew : p.world.feeds.length ≤ 1) (hanswer : p.answer = none)
    (hbound : ∀ t ∈ p.world.feeds, t.feed.isOver = false →
      p.turns + t.rank ≤ 3 + p.waits + 3 * p.slips) : Stands r fault? p' := by
  cases h with
  | waits hgoes =>
    refine ⟨hr, rfl, rfl, hfew, fun _ => rfl, fun result he => ?_, hbound⟩
    rw [hanswer] at he
    cases he
  | closes result hquiet hresult =>
    have hsame : World.SameStack p.world.told (p.world.told.closed close r) := hclose.same_closed
    refine ⟨hsame.registry.trans hr, hsame.stopped, hsame.chief, ?_, nofun, ?_, ?_⟩
    · rw [hsame.feeds]
      exact hfew
    · intro _ he
      cases he
      refine ⟨hresult, ?_⟩
      rw [World.Quiet, hsame.feeds]
      exact hquiet
    · rw [hsame.feeds]
      exact hbound

theorem stands_look (hclose : World.Closes r fault? close) (h : Stands r fault? p) :
    Stands r fault? (p.look close) := by
  cases hanswer : p.answer with
  | none => exact (h.looked hclose hanswer).stands hclose h.registry h.few hanswer h.bound
  | some result =>
    rw [look, hanswer]
    exact h

theorem stands_beside {change : World → World} (hchange : ∀ w, World.SameStack w (change w))
    (h : Stands r fault? p) : Stands r fault? { p with world := change p.world } := by
  have hsame := hchange p.world
  refine ⟨hsame.registry.trans h.registry, hsame.stopped.trans h.stopped,
    hsame.chief.trans h.chief, ?_, h.awaits, ?_, ?_⟩
  · rw [hsame.feeds]
    exact h.few
  · intro result he
    rw [World.Quiet, hsame.feeds]
    exact h.answered result he
  · rw [hsame.feeds]
    exact h.bound

theorem stands_feed (heeds : Bool) (h : Stands r fault? p) : Stands r fault? (p.goOn heeds) := by
  rcases World.goOn_cases heeds h.few with ⟨hnone, he⟩ | ⟨t, engine, watches, hfeeds, he⟩
  · have hbound : ∀ t ∈ p.world.feeds, False := by
      rw [hnone]
      exact nofun
    refine ⟨?_, ?_, ?_, ?_, h.awaits, ?_, ?_⟩ <;> dsimp only [goOn] <;> rw [he]
    · exact h.registry
    · exact h.stopped
    · exact h.chief
    · exact h.few
    · exact h.answered
    · exact fun t ht => (hbound t ht).elim
  · have ht : t ∈ p.world.feeds := by
      rw [hfeeds]
      exact List.mem_singleton.mpr rfl
    refine ⟨?_, ?_, ?_, ?_, h.awaits, ?_, ?_⟩ <;> dsimp only [goOn] <;> rw [he]
    · exact h.registry
    · exact h.stopped
    · exact h.chief
    · exact Nat.le_refl 1
    · intro result hanswer
      obtain ⟨hresult, hquiet⟩ := h.answered result hanswer
      refine ⟨hresult, fun t' ht' => ?_⟩
      rw [List.mem_singleton.mp ht', World.choose_of_over heeds (hquiet t ht)]
      exact hquiet t ht
    · intro t' ht' hgoes
      obtain rfl := List.mem_singleton.mp ht'
      obtain ⟨hold, hrank⟩ := World.rank_choose h.stopped hfeeds heeds hgoes
      have hbound := h.bound t ht hold
      omega

theorem stands_after (hclose : World.Closes r fault? close) (event : Event)
    (hbeside : ∀ change, event = .beside change → ∀ w, World.SameStack w (change w))
    (h : Stands r fault? p) : Stands r fault? (p.after close event) := by
  cases event with
  | look => exact stands_look hclose h
  | feed heeds => exact stands_feed heeds h
  | beside change => exact stands_beside (hbeside change rfl) h

theorem stands_run (hclose : World.Closes r fault? close) {events : List Event}
    (hbeside : ∀ change, .beside change ∈ events → ∀ w, World.SameStack w (change w))
    (h : Stands r fault? p) : Stands r fault? (p.run close events) := by
  induction events generalizing p with
  | nil => exact h
  | cons event rest ih =>
    have hafter : Stands r fault? (p.after close event) :=
      stands_after hclose event (fun change he => hbeside change (he ▸ List.mem_cons_self)) h
    exact ih (fun change hchange => hbeside change (List.mem_cons_of_mem _ hchange)) hafter

/-- What keeps a stack from being closed is an inspection that has not returned. -/
theorem Stands.held (h : Stands r fault? p) {heeds : Bool} (hwaits : p.world.waits heeds = true) :
    ∃ t ∈ (p.world.goOn heeds).feeds, ∃ task ∈ t.work, World.Held p.world.now task := by
  rcases World.goOn_cases heeds h.few with ⟨hnone, -⟩ | ⟨t, engine, watches, hfeeds, he⟩
  · rw [World.waits, hnone] at hwaits
    cases hwaits
  · rw [World.waits, hfeeds] at hwaits
    obtain ⟨hgoes, hstays⟩ : t.feed.isOver = false ∧ (p.world.choose heeds t).2.1 = false := by
      simpa using hwaits
    rw [he]
    exact ⟨_, List.mem_singleton.mpr rfl, World.held_of_choose hgoes h.stopped hstays⟩

end

/-- Closing a stack in which at most one feed was ever put in charge, wherever that feed stands, and
whatever happens meanwhile:

* each look waits while the feed is not over, and otherwise closes every service, once and in the
  order of the registry;
* what it comes to is the fault of the first service that closes badly, or that all is well;
* when it has come to something the feed is over, and changes nothing any more;
* the feed is over after three steps at most, besides those in which it waits, and up to three more
  for each time that it could have heeded that it is to stop and did not;
* it waits for inspections that have not returned, and nothing else. -/
theorem closing_reaches_all {w : World} (hstarted : w.StartedOnce)
    {fault? : Nat → Option Service.Fault}
    {close : Nat → World → Option Service.Fault × World}
    (hclose : World.Closes w.registry fault? close) {events : List Event}
    (hbeside : ∀ change, .beside change ∈ events → ∀ w, World.SameStack w (change w)) :
    let r := w.registry
    let called := (ofWorld w).look close
    let p := called.run close events
    Looked close r fault? (ofWorld w) called ∧
    (p.answer = none → Looked close r fault? p (p.look close)) ∧
    (∀ result, p.answer = some result → ClosesAs r fault? result ∧ p.world.Quiet ∧
      p.look close = p ∧ (∀ heeds, p.world.goOn heeds = p.world) ∧
      p.world.runFeeds p.world.feeds = (p.world.feeds, p.world)) ∧
    (p.world.Quiet ∨ p.turns < 3 + p.waits + 3 * p.slips) ∧
    (∀ heeds, p.world.waits heeds = true →
      ∃ t ∈ (p.world.goOn heeds).feeds, ∃ task ∈ t.work, World.Held p.world.now task) := by
  intro r called p
  have hlooked : Looked close r fault? (ofWorld w) called := looked_ofWorld hclose hstarted
  have hrank : ∀ t ∈ w.feeds, t.feed.isOver = false → 0 + t.rank ≤ 3 + 0 + 3 * 0 := by
    intro t _ _
    rw [Nat.zero_add]
    exact t.rank_le
  have hbegun : Stands r fault? called := hlooked.stands hclose rfl hstarted.few rfl hrank
  have hstands : Stands r fault? p := stands_run hclose hbeside hbegun
  refine ⟨hlooked, hstands.looked hclose, ?_, ?_, fun heeds => hstands.held⟩
  · intro result hanswer
    obtain ⟨hresult, hquiet⟩ := hstands.answered result hanswer
    refine ⟨hresult, hquiet, ?_, fun heeds => World.goOn_of_over heeds hquiet,
      World.runFeeds_of_over hquiet⟩
    rw [look, hanswer]
    rfl
  · rcases Classical.em (∃ t ∈ p.world.feeds, t.feed.isOver = false) with ⟨t, ht, hgoes⟩ | hnone
    · have hbound := hstands.bound t ht hgoes
      have hrank : t.rank ≠ 0 := by
        intro hzero
        rw [Feed.Task.rank_eq_zero.mp hzero] at hgoes
        cases hgoes
      exact .inr (by omega)
    · exact .inl fun t ht => eq_true_of_ne_false fun hgoes => hnone ⟨t, ht, hgoes⟩

/-- Three services, the first of which is disabled; the others close badly. -/
def frail : Stack.Registry :=
  ⟨[⟨"first", .understudy .never false, ⟨"first", true, ""⟩⟩,
    ⟨"second", .understudy .never true, ⟨"second", false, ""⟩⟩,
    ⟨"third", .understudy .never true, ⟨"third", false, ""⟩⟩], by decide⟩

/-- A world in which a feed was put in charge of the three, and an inspection takes a while. -/
def frailWorld : World :=
  let w := (World.ofRegistry 1000 frail [] false none).begin
  { w with engine := w.engine.hold .inspect "first" (some ⟨10, .proceeds⟩) }

/-- The feed is told to stop before it has brought everything up to date, which it does first. All
three are closed, and the fault of the second is told. -/
theorem closing_reaches_all_frail :
    let events : List Event := [.feed true, .feed true, .look,
      .beside fun w => { w with now := w.now + 10 }, .feed true, .feed true, .look]
    let p := ((ofWorld frailWorld).look World.closeService).run World.closeService events
    frailWorld.StartedOnce ∧
    World.Closes frail (fun i => (frail.get? i).bind World.closeFault?) World.closeService ∧
    (∀ change, .beside change ∈ events → ∀ w, World.SameStack w (change w)) ∧
    p.turns = 4 ∧ p.waits = 1 ∧ p.slips = 0 ∧
    (p.answer = some (.error (.close "second" (.sibling "second"))) ∧
      ((List.range 3).map fun i => (p.world.tallies i).map (·.closes)) =
        [some 1, some 1, some 1]) ∧
    p.world.Quiet ∧ ∀ heeds, p.world.goOn heeds = p.world := by
  intro events p
  have hstarted : frailWorld.StartedOnce := .once Feed.Task.start rfl rfl
  have hclose := World.closes_closeService frail
  have hbeside : ∀ change, .beside change ∈ events → ∀ w, World.SameStack w (change w) := by
    intro change hchange w
    obtain rfl : change = fun w => { w with now := w.now + 10 } := by simpa [events] using hchange
    exact ⟨rfl, rfl, rfl, rfl⟩
  have hanswer : p.answer = some (.error (.close "second" (.sibling "second"))) := rfl
  obtain ⟨-, -, hanswered, -⟩ := closing_reaches_all hstarted hclose hbeside
  obtain ⟨-, hquiet, -, hstill, -⟩ := hanswered _ hanswer
  exact ⟨hstarted, hclose, hbeside, rfl, rfl, rfl, ⟨hanswer, rfl⟩, hquiet, hstill⟩

end Shutdown

end NodeStack.Scenario
