import NodeStack.Engine.Container
import NodeStack.Json.Record
import NodeStack.Text.Split

/-!
# `NodeStack.Engine.Inspect`: reading the engine's description of a container

- `Record.ofDescription?`: the record of a description; nothing if a part has the wrong shape.

Every part of a description may be absent or `null`. A start before 1970, or in its first second,
means that the container was never started.
-/

set_option autoImplicit false

namespace NodeStack.Engine

/-- A part of a description, which may be absent or `null`. -/
def part? {α : Type} (read : Json → Option α) (value : Json) (name : String) : Option (Option α) :=
  Json.optional read ((value.members?.bind fun ms => ms.lookup name))

/-- The states a description can give. -/
def states : List String :=
  ["", "created", "running", "paused", "restarting", "removing", "exited", "dead"]

/-- A state of a description. -/
def state? (value : Json) : Option String :=
  value.text?.filter (states.contains ·)

/-- The state and the start of a description's state part. -/
def stateParts? (value : Json) : Option (Option String × Option String) := do
  let _ ← value.members?
  let status ← part? state? value "Status"
  let started ← part? Json.text? value "StartedAt"
  pure (status, started)

/-- The environment of a description's configuration part. -/
def envPart? (value : Json) : Option (Option (List String)) := do
  let _ ← value.members?
  part? Json.texts? value "Env"

/-- The start a description gives. -/
def startOfText? (text : String) : Option Time.Stamp :=
  (Time.Stamp.ofText? text).filter fun t => 0 < t.seconds

/-- A variable, from its name and value around the first equals sign. -/
def setting? (entry : String) : Option (String × String) :=
  (Text.cut? ['='] entry.toList).map fun (name, value) => (String.ofList name, String.ofList value)

/-- A container's name without the slashes in front. -/
def plainName (name : String) : String :=
  String.ofList (name.toList.dropWhile (· = '/'))

/-- The record of a container, from the engine's description. -/
def Record.ofDescription? (value : Json) : Option Record := do
  let _ ← value.members?
  let id ← part? Json.text? value "Id"
  let name ← part? Json.text? value "Name"
  let state ← part? stateParts? value "State"
  let env ← part? envPart? value "Config"
  pure
    { id := id.getD ""
      name := (name.map plainName).getD ""
      state := (state.bind (·.1)).getD "unknown"
      startedAt := (state.bind (·.2)).bind startOfText?
      env := Dict.ofPairs ((env.join.getD []).filterMap setting?) }

end NodeStack.Engine
