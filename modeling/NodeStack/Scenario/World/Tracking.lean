import NodeStack.Scenario.World.Basic

/-!
# `NodeStack.Scenario.World.Tracking`: following the containers of a world

- `World.callEngine`: a call of the engine that may be held up.
- `World.lookTrack`: the answers to the questions on the way to knowing the containers.
-/

set_option autoImplicit false

namespace NodeStack.Scenario

open Plan (Look Progress)
open Stack (Track)

namespace World

/-- The call under way; one that begins is kept a record of. -/
def flightOf (call : StagedEngine.Held) (name : String) (note : StagedEngine.Note)
    (flight : Option StagedEngine.Flight) (w : World) : StagedEngine.Flight × World :=
  match flight with
  | some f => (f, w)
  | none => (w.engine.begin call name w.now, { w with engine := w.engine.note note })

/-- A call of the engine that may be held up. `proceed` carries it out. -/
def callEngine {α : Type} (call : StagedEngine.Held) (name : String) (note : StagedEngine.Note)
    (proceed : StagedEngine → Except Engine.Fault α × StagedEngine)
    (flight : Option StagedEngine.Flight) (w : World) :
    Look (Except Engine.Fault α) StagedEngine.Flight × World :=
  let (f, w) := w.flightOf call name note flight
  match f.turn? w.now with
  | none | some .never => (.waiting f, w)
  | some .crashes => (.crashed none, w)
  | some (.fails fault) => (.answered (.error fault), w)
  | some .proceeds =>
    let (result, engine) := proceed w.engine
    (.answered result, { w with engine := engine })

/-- Looks a container up. -/
def inspect (name : String) (flight : Option StagedEngine.Flight) (w : World) :
    Look (Except Engine.Fault (Option Engine.Record)) StagedEngine.Flight × World :=
  w.callEngine .inspect name (.inspect name)
    (fun e => let (r, e) := e.inspect name; (.ok r, e)) flight

/-- Runs a command in a container. -/
def exec (name : String) (command : List String) (terminal : Bool)
    (flight : Option StagedEngine.Flight) (w : World) :
    Look (Except Engine.Fault Engine.ExecResult) StagedEngine.Flight × World :=
  w.callEngine .exec name (.exec name command terminal) (fun e => e.exec name command) flight

/-- Asks for the log of a container. -/
def openLog (name : String) (range : Engine.LogRange) (flight : Option StagedEngine.Flight)
    (w : World) : Look (Except Engine.Fault Engine.Log) StagedEngine.Flight × World :=
  w.callEngine .logs name (.logs name range) (fun e => (e.logOf name range, e)) flight

/-- The first service whose container has that id. -/
def holder? (id : String) (w : World) : Option Nat :=
  Stack.holder? w.registry w.watches id

/-- Takes over a record of the container of a service. -/
def take (service : Nat) (record : Option Engine.Record) (w : World) : World :=
  { w with watches := Stack.takeOver service record w.watches }

/-- The answers to the questions on the way to knowing the containers. -/
def lookTrack : (q : Track) → Option StagedEngine.Flight → World →
    Look q.Answer StagedEngine.Flight × World
  | .inspect name, flight, w => w.inspect name flight
  | .holder id, _, w => (.answered (w.holder? id), w)
  | .take service record, _, w => (.answered (), w.take service record)

end World

end NodeStack.Scenario
