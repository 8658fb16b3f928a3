import NodeStack.Launcher.Call
import NodeStack.Scenario.Disk
import NodeStack.Scenario.Replies
import NodeStack.Scenario.StagedEngine
import NodeStack.Engine.Watch
import NodeStack.Service.Follower
import NodeStack.Service.Inquiry
import NodeStack.Setup.Journal
import NodeStack.Stack.Feed.Task
import NodeStack.Stack.Registry
import NodeStack.Stack.Tracking

/-!
# `NodeStack.Scenario.World.Basic`: a stack among an engine, files and services set up by hand

- `World`: the stack, all that surrounds it, and what goes on in the background.
- `Tally`: how often an understudy was opened, asked and closed.
- `World.ofRegistry`: a stack in which nothing has happened.
-/

set_option autoImplicit false

namespace NodeStack.Scenario

open Engine (Watch)

/-- How often an understudy was opened, asked for its status, and closed. -/
structure Tally where
  opens : Nat
  asked : Nat
  closes : Nat
  deriving Repr, DecidableEq

/-- A procedure that follows the containers, as far as it has come. -/
abbrev TrackTask := Plan.Progress Stack.Track Stack.Track.Answer StagedEngine.Flight Unit

/-- A follower of the engine's events. -/
abbrev FeedTask := Stack.Feed.Task Nat StagedEngine.Flight

/-- A follower of the log of a service. -/
structure FollowTask where
  follower : Service.Follower
  service : Nat
  /-- The wait for the container. -/
  ticket : Option Nat
  /-- The call for a log. -/
  flight : Option StagedEngine.Flight

/-- A stack, all that surrounds it, and what goes on in the background. -/
structure World where
  /-- Milliseconds since the beginning. -/
  now : Nat
  /-- How long a request may take, in milliseconds. -/
  timeout : Nat
  registry : Stack.Registry
  /-- The latest record of the container of each service. -/
  watches : Table Watch
  disk : Disk
  engine : StagedEngine
  replies : Replies
  journal : Option Setup.Journal
  roster : Launcher.Roster
  tallies : Table Tally
  /-- The stack was told to stop. -/
  stopped : Bool
  feeds : List FeedTask
  /-- The feed that is in charge. -/
  chief : Option Nat
  followers : List FollowTask

namespace World

/-- A stack in which nothing has happened. -/
def ofRegistry (timeout : Nat) (registry : Stack.Registry) (disk : Disk) (deserted : Bool)
    (journal : Option Setup.Journal) : World :=
  { now := 0
    timeout := timeout
    registry := registry
    watches := fun i => (registry.get? i).map fun s => Watch.ofName s.handle.container
    disk := disk
    engine := StagedEngine.empty
    replies := Replies.none_ deserted
    journal := journal
    roster := Launcher.Roster.empty
    tallies := fun i => (registry.get? i).map fun _ => ⟨0, 0, 0⟩
    stopped := false
    feeds := []
    chief := none
    followers := [] }

/-- The latest record of the container of a service. -/
def record? (w : World) (service : Nat) : Option Engine.Record :=
  Stack.latest? w.watches service

/-- Changes the watch of a service. -/
def onWatch {α : Type} (service : Nat) (default : α) (f : Watch → α × Watch) (w : World) :
    α × World :=
  match w.watches.get? service with
  | none => (default, w)
  | some watch =>
    let (a, watch) := f watch
    (a, { w with watches := w.watches.set service watch })

/-- Changes the tally of a service. -/
def count (service : Nat) (f : Tally → Tally) (w : World) : World :=
  match w.tallies.get? service with
  | none => w
  | some tally => { w with tallies := w.tallies.set service (f tally) }

/-- Whether the setup is under way. -/
def isSetup (w : World) : Bool :=
  match w.journal with
  | some j => j.progress == .setup
  | none => false

/-- What the container of a service says. -/
def baseOf (service : Nat) (w : World) : Service.Base :=
  match w.registry.get? service with
  | some s => s.handle.base (w.record? service)
  | none => .missing

/-- A variable in the environment of the container of a service. -/
def getenv (service : Nat) (key : String) (w : World) : Except Service.Fault (Option String) :=
  match w.record? service, w.registry.get? service with
  | some record, _ => .ok (record.getenv key)
  | none, some s => .error (.containerMissing s.handle.container)
  | none, none => .error (.containerMissing "")

/-- The name of a service. -/
def nameOf (service : Nat) (w : World) : String :=
  match w.registry.get? service with
  | some s => s.name
  | none => ""

/-- The name of the container of a service. -/
def containerOf (service : Nat) (w : World) : String :=
  match w.registry.get? service with
  | some s => s.handle.container
  | none => ""

end World

end NodeStack.Scenario
