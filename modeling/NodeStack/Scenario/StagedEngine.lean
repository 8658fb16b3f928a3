import NodeStack.Engine.Event
import NodeStack.Engine.Interface
import NodeStack.Engine.Log
import NodeStack.Table
import NodeStack.Text.Digits

/-!
# `NodeStack.Scenario.StagedEngine`: an engine whose containers are set up by hand

- `Staged`: a container with its log and the results of its commands.
- `Hitch`, `Flight`: how a call is held up, and a call under way.
- `Channel`: a stream of events.
- `StagedEngine`: all of it, with a record of the calls.

A name or an id finds a container. Each stream of events has one reader; those who come later get an
empty one, until the stream ends and another takes its place.
-/

set_option autoImplicit false

namespace NodeStack.Scenario

open Engine (Event ExecResult Finding Log LogEnd LogRange Record)

namespace StagedEngine

/-- A container with its log and the results of its commands. -/
structure Staged where
  record : Record
  lines : List String
  /-- The result of each command, its words joined by blanks. -/
  results : Dict ExecResult

/-- The calls that can be held up. -/
inductive Held where
  | inspect
  | logs
  | exec
  deriving Repr, DecidableEq

/-- What becomes of a call once its delay is over. -/
inductive Turn where
  /-- It is carried out. -/
  | proceeds
  /-- It never ends. -/
  | never
  /-- It breaks down. -/
  | crashes
  | fails (fault : Engine.Fault)
  deriving Repr, DecidableEq

/-- How a call is held up. -/
structure Hitch where
  delay : Nat
  turn : Turn
  deriving Repr, DecidableEq

/-- How a log is cut short. -/
structure LogCut where
  /-- How many lines come before. -/
  after : Nat
  ending : LogEnd
  deriving Repr, DecidableEq

/-- A call under way. -/
structure Flight where
  /-- When its delay is over. -/
  due : Nat
  turn : Turn
  deriving Repr, DecidableEq

/-- What becomes of a call at the time `now`, if its delay is over and it does not hang. -/
def Flight.turn? (now : Nat) (f : Flight) : Option Turn :=
  if f.due ≤ now && f.turn != .never then some f.turn else none

/-- A stream of events. -/
structure Channel where
  queue : List (Except Engine.Fault Event)
  /-- Nothing more will come. -/
  closed : Bool

/-- A call that was made. -/
inductive Note where
  | events
  | inspect (name : String)
  | logs (name : String) (range : LogRange)
  | exec (name : String) (command : List String) (terminal : Bool)
  deriving Repr, DecidableEq

end StagedEngine

open StagedEngine in
/-- An engine whose containers are set up by hand. -/
structure StagedEngine where
  containers : Dict Staged
  /-- How calls about a container are held up; the first entry counts. -/
  hitches : List ((Held × String) × Hitch)
  /-- How the log of a container is cut short. -/
  cuts : Dict LogCut
  /-- Every stream of events there ever was. -/
  channels : Table Channel
  /-- The stream that events go to. -/
  channel : Nat
  /-- That stream has a reader. -/
  taken : Bool
  /-- The calls that were made, oldest first. -/
  notes : List Note
  /-- How often a container was looked up. -/
  inspects : Nat
  /-- How many commands were run. -/
  execs : Nat
  /-- How many readers of events there have been. -/
  subscriptions : Nat

namespace StagedEngine

/-- A stream without events. -/
def Channel.fresh : Channel := ⟨[], false⟩

/-- An engine without containers. -/
def empty : StagedEngine :=
  { containers := [], hitches := [], cuts := [], channels := Table.empty.set 0 Channel.fresh,
    channel := 0, taken := false, notes := [], inspects := 0, execs := 0, subscriptions := 0 }

/-- Keeps a record of a call. -/
def note (n : Note) (e : StagedEngine) : StagedEngine := { e with notes := e.notes ++ [n] }

/-! ### Setting up -/

/-- Adds a container, in the place of an earlier one of its name. -/
def add (record : Record) (e : StagedEngine) : StagedEngine :=
  { e with containers := e.containers.put record.name ⟨record, [], []⟩ }

/-- Takes a container away. -/
def remove (name : String) (e : StagedEngine) : StagedEngine :=
  { e with containers := e.containers.remove name }

/-- Changes a container, if there is one of that name. -/
def modify (name : String) (f : Staged → Staged) (e : StagedEngine) : StagedEngine :=
  match e.containers.get? name with
  | some c => { e with containers := e.containers.put name (f c) }
  | none => e

/-- The words of a command as a text. -/
def commandText (command : List String) : String := Text.joinWith " " command

/-- Sets the log of a container. -/
def setLines (name : String) (lines : List String) (e : StagedEngine) : StagedEngine :=
  e.modify name fun c => { c with lines := lines }

/-- Sets the result of a command. -/
def setResult (name : String) (command : List String) (result : ExecResult) (e : StagedEngine) :
    StagedEngine :=
  e.modify name fun c => { c with results := c.results.put (commandText command) result }

/-- Holds up the calls of a kind about a container, or no longer does. -/
def hold (call : Held) (name : String) (hitch : Option Hitch) (e : StagedEngine) : StagedEngine :=
  let others := e.hitches.filter fun (key, _) => key != (call, name)
  { e with
    hitches := match hitch with
      | some h => ((call, name), h) :: others
      | none => others }

/-- Cuts the log of a container short, or no longer does. -/
def cut (name : String) (cut : Option LogCut) (e : StagedEngine) : StagedEngine :=
  { e with
    cuts := match cut with
      | some c => e.cuts.put name c
      | none => e.cuts.remove name }

/-! ### Calls -/

/-- A call of a kind about a container that begins at the time `now`. -/
def begin (call : Held) (name : String) (now : Nat) (e : StagedEngine) : Flight :=
  match e.hitches.lookup (call, name) with
  | some h => ⟨now + h.delay, h.turn⟩
  | none => ⟨now, .proceeds⟩

/-- The container of a name, or else the first with that id. -/
def find? (name : String) (e : StagedEngine) : Option Staged :=
  match e.containers.get? name with
  | some c => some c
  | none => (e.containers.find? fun (_, c) => c.record.id == name).map (·.2)

/-- Looks a container up. -/
def inspect (name : String) (e : StagedEngine) : Option Record × StagedEngine :=
  ((e.find? name).map (·.record), { e with inspects := e.inspects + 1 })

/-- The last lines of a log, as many as a text says, or all of them. -/
def tailOf (tail : Option String) (lines : List String) : List String :=
  match tail.bind fun t => Text.natural? 10 (2 ^ 64) t.toList with
  | some n => lines.drop (lines.length - n)
  | none => lines

/-- A log that is cut short. A log that has fewer lines comes to its own end. -/
def LogCut.apply (c : LogCut) (lines : List String) : Log :=
  if lines.length < c.after then ⟨lines, .whole⟩ else ⟨lines.take c.after, c.ending⟩

/-- The log of a container. -/
def logOf (name : String) (range : LogRange) (e : StagedEngine) : Except Engine.Fault Log :=
  match e.find? name with
  | none => .error (.containerNotFound name)
  | some c =>
    let lines := tailOf range.tail c.lines
    match e.cuts.get? name with
    | some cut => .ok (cut.apply lines)
    | none => .ok ⟨lines, .whole⟩

/-- Runs a command. -/
def exec (name : String) (command : List String) (e : StagedEngine) :
    Except Engine.Fault ExecResult × StagedEngine :=
  let e := { e with execs := e.execs + 1 }
  match e.find? name with
  | none => (.error (.containerNotFound name), e)
  | some c =>
    let text := commandText command
    (.ok ((c.results.get? text).getD ⟨s!"{text}: command not found", 127⟩), e)

/-- The id of every session in which a command runs. -/
def sessionId : String := "fake-exec"

/-! ### Events -/

/-- Puts an item into the stream that events go to. -/
def push (item : Except Engine.Fault Event) (e : StagedEngine) : StagedEngine :=
  match e.channels.get? e.channel with
  | some c => { e with channels := e.channels.set e.channel { c with queue := c.queue ++ [item] } }
  | none => e

/-- The stream that events go to ends, and another takes its place. -/
def endEvents (e : StagedEngine) : StagedEngine :=
  let channels :=
    match e.channels.get? e.channel with
    | some c => e.channels.set e.channel { c with closed := true }
    | none => e.channels
  { e with
    channels := channels.set (e.channel + 1) Channel.fresh
    channel := e.channel + 1
    taken := false }

/-- Begins to read events: the number of the stream, or nothing if it has a reader already. -/
def subscribe (e : StagedEngine) : Option Nat × StagedEngine :=
  let e := { e.note .events with subscriptions := e.subscriptions + 1 }
  if e.taken then (none, e) else (some e.channel, { e with taken := true })

/-- Reads the next item of a stream. -/
def receive (stream : Option Nat) (e : StagedEngine) : Finding × StagedEngine :=
  match stream with
  | none => (.ended, e)
  | some n =>
    match e.channels.get? n with
    | none => (.ended, e)
    | some ⟨[], closed⟩ => (if closed then .ended else .nothing, e)
    | some ⟨item :: rest, closed⟩ =>
      (.item item, { e with channels := e.channels.set n ⟨rest, closed⟩ })

end StagedEngine

end NodeStack.Scenario
