import NodeStack.Engine.Interface
import NodeStack.Engine.Log
import NodeStack.Engine.Watch

/-!
# `NodeStack.Service.Follower`: following the log of a container from start to start

- `Follower`: where the follower stands, and the lines that wait to be taken.
- `Follower.want`: the container the follower waits for.
- `Follower.found`, `Follower.opened`, `Follower.refused`: what the container and the engine do.
- `Follower.go`: what the follower can do by itself.
- `Follower.takeLines`, `Follower.cancel`, `Follower.drop`: what its reader does.

The follower waits until the container runs, passes on the lines of its log and then a mark, rests,
and waits for the container to be started again. Only so many lines wait to be taken; the follower
waits for room.
-/

set_option autoImplicit false

namespace NodeStack.Service

open Engine (Record Want Log LogRange)

namespace Follower

/-- The line that marks the end of a log. -/
def endMark : String := "--- EOF ---"

/-- How long the follower rests after a log, in milliseconds. -/
def restartDelay : Nat := 3000

/-- How many lines can wait to be taken. -/
def bufferLimit : Nat := 256

/-- Where a follower stands. -/
inductive Phase where
  /-- It waits for the container to run. -/
  | waiting
  /-- It asks the engine for the log of a container. -/
  | opening (record : Record) (range : LogRange)
  /-- It is about to take the next line of a log. -/
  | reading (record : Record) (log : Log)
  /-- It passes on a line; the rest of the log follows, or nothing if the line is the mark. -/
  | passing (record : Record) (line : String) (rest : Option Log)
  /-- It rests until a point in time. -/
  | resting (record : Record) (wake : Nat)
  /-- It has ended. -/
  | ended
  deriving Repr, DecidableEq

end Follower

/-- A follower of the log of a container. -/
structure Follower where
  phase : Follower.Phase
  /-- What the reader asked for, until the first log is asked for. -/
  first : Option LogRange
  /-- The container whose log came last. -/
  previous : Option Record
  /-- The lines that wait to be taken. -/
  buffer : List String
  /-- The follower was told to stop. -/
  told : Bool
  /-- The reader is gone. -/
  deserted : Bool
  deriving Repr, DecidableEq

namespace Follower

/-- A follower that begins with a part of the log. -/
def start (since tail : Option String) : Follower :=
  ⟨.waiting, some ⟨since, tail, true⟩, none, [], false, false⟩

/-- The container the follower waits for: a running one, and after a log one that was started
again. -/
def want (f : Follower) : Want :=
  match f.previous with
  | some record => .restartOf record
  | none => .running

/-- The part of the log that is asked for after the first: from the start of the container on. -/
def laterRange (record : Record) : LogRange :=
  ⟨record.startedAt.map fun t => toString t.seconds, none, true⟩

/-- The container runs. -/
def found (record : Record) (f : Follower) : Follower :=
  { f with phase := .opening record (f.first.getD (laterRange record)), first := none }

/-- The follower rests from the time `now` on. -/
def rest (record : Record) (now : Nat) (f : Follower) : Follower :=
  { f with phase := .resting record (now + restartDelay), previous := some record }

/-- The engine gives the log. -/
def opened (log : Log) (f : Follower) : Follower :=
  match f.phase with
  | .opening record _ => { f with phase := .reading record log }
  | _ => f

/-- The engine refuses the log at the time `now`. -/
def refused (now : Nat) (f : Follower) : Follower :=
  match f.phase with
  | .opening record _ => f.rest record now
  | _ => f

/-- The follower ends. -/
def finish (f : Follower) : Follower := { f with phase := .ended }

/-- The next line of a log; the mark once the log has ended. -/
def readNext (record : Record) (log : Log) (f : Follower) : Option Follower :=
  match log.lines with
  | line :: lines =>
    some { f with phase := .passing record line (some { log with lines := lines }) }
  | [] =>
    match log.ending with
    | .silent => none
    | _ => some { f with phase := .passing record endMark none }

/-- Passes on a line at the time `now`, if there is room. -/
def pass (record : Record) (line : String) (rest : Option Log) (now : Nat) (f : Follower) :
    Option Follower :=
  if f.deserted then some f.finish
  else if f.buffer.length < bufferLimit then
    let f := { f with buffer := f.buffer ++ [line] }
    match rest with
    | some log => some { f with phase := .reading record log }
    | none => some (f.rest record now)
  else none

/-- What the follower can do by itself at the time `now`, if anything. A follower that was told to
stop does so unless it waits for the engine or for room. -/
def go (now : Nat) (f : Follower) : Option Follower :=
  match f.phase with
  | .waiting => if f.told then some f.finish else none
  | .opening .. => none
  | .reading record log => if f.told then some f.finish else f.readNext record log
  | .passing record line rest => f.pass record line rest now
  | .resting _ wake =>
    if f.told then some f.finish
    else if wake ≤ now then some { f with phase := .waiting } else none
  | .ended => none

/-- Whether the follower has ended. -/
def isOver (f : Follower) : Bool := f.phase == .ended

/-- The reader takes all lines that wait. -/
def takeLines (f : Follower) : List String × Follower := (f.buffer, { f with buffer := [] })

/-- The reader tells the follower to stop. -/
def cancel (f : Follower) : Follower := { f with told := true }

/-- The reader goes away. -/
def drop (f : Follower) : Follower := { f with told := true, deserted := true, buffer := [] }

/-- When the follower goes on by itself, if it waits for a point in time. -/
def timer (f : Follower) : Option Nat :=
  match f.phase with
  | .resting _ wake => some wake
  | _ => none

end Follower

end NodeStack.Service
