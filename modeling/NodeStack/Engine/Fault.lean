/-!
# `NodeStack.Engine.Fault`: what can go wrong with the container engine

- `Fault`: the causes.
- `Fault.message`, `Fault.kind`: their wording and their names.
- `Fault.about`: a fault of a call about one container.
-/

set_option autoImplicit false

namespace NodeStack.Engine

/-- Why a call to the container engine failed. -/
inductive Fault where
  /-- The engine cannot be reached. -/
  | connectionFailed (detail : String)
  /-- The engine knows no container of that name. -/
  | containerNotFound (name : String)
  /-- The engine gave no stream to read from. -/
  | streamClosed
  /-- A log was asked for from a point in time that cannot be read. -/
  | invalidSince (raw : String)
  /-- The engine answered with an error status. -/
  | refused (status : Nat) (text : String)
  /-- The engine's answer could not be used. -/
  | unusable
  deriving Repr, DecidableEq

/-- The wording of a fault. -/
def Fault.message : Fault → String
  | .connectionFailed detail => s!"Docker connection failed: {detail}"
  | .containerNotFound name => s!"Container not found: {name}"
  | .streamClosed => "Stream closed"
  | .invalidSince raw => s!"Invalid log range: {raw}"
  | .refused status text => s!"Bollard error: Docker responded with status code {status}: {text}"
  | .unusable => "Bollard error"

/-- The name of the kind of a fault. -/
def Fault.kind : Fault → String
  | .connectionFailed _ => "ConnectionFailed"
  | .containerNotFound _ => "ContainerNotFound"
  | .streamClosed => "StreamClosed"
  | .invalidSince _ => "InvalidSince"
  | .refused .. | .unusable => "BollardError"

/-- A fault of a call about the container `name`: the status 404 says that there is none. -/
def Fault.about (name : String) : Fault → Fault
  | .refused 404 _ => .containerNotFound name
  | other => other

end NodeStack.Engine
