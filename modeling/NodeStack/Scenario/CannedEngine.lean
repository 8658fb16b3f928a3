import NodeStack.Engine.Interface
import NodeStack.Json.Printer

/-!
# `NodeStack.Scenario.CannedEngine`: an engine with prepared answers

- `CannedEngine`: the answer to each call.
- `CannedEngine.answer`: the answer an engine gives; a container that it does not know is not found.
-/

set_option autoImplicit false

namespace NodeStack.Scenario

open NodeStack.Engine

/-- An engine with prepared answers. -/
structure CannedEngine where
  ping : Answer
  /-- The description of each container. -/
  inspect : Dict Answer
  logs : Answer
  events : Answer
  createExec : Answer
  startExec : Answer
  inspectExec : Answer

namespace CannedEngine

/-- The answer about a container that the engine does not know. -/
def unknown (name : String) : Answer :=
  let body := Json.ofMembers [("message", .str s!"No such container: {name}")]
  ⟨404, Text.Utf8.encode (Json.write body)⟩

/-- The answer to a call. -/
def answer (e : CannedEngine) : Call → Answer
  | .ping => e.ping
  | .inspect name => (e.inspect.get? name).getD (unknown name)
  | .logs .. => e.logs
  | .events _ => e.events
  | .createExec .. => e.createExec
  | .startExec .. => e.startExec
  | .inspectExec _ => e.inspectExec

end CannedEngine

end NodeStack.Scenario
