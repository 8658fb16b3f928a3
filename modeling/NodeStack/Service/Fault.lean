import NodeStack.Engine.Fault
import NodeStack.Upstream.Fault

/-!
# `NodeStack.Service.Fault`: what can go wrong with a service of the stack

- `Fault`: the causes, those of the engine and of upstream services included.
- `Fault.message`, `Fault.kind`: their wording and their names.
-/

set_option autoImplicit false

namespace NodeStack.Service

/-- Why an operation on a service failed. -/
inductive Fault where
  /-- The service has no container. -/
  | containerMissing (name : String)
  /-- The engine failed. -/
  | engine (cause : Engine.Fault)
  /-- A call to the service failed. -/
  | upstream (cause : Upstream.Fault)
  /-- The connection to the service failed. -/
  | link (cause : Upstream.LinkFault)
  /-- A command ended with an exit code other than zero. -/
  | commandFailed (code : Int) (output : String)
  /-- Another service that is needed is not there. -/
  | sibling (name : String)
  /-- Data cannot be read. -/
  | malformed (detail : String)
  /-- An argument is not acceptable. -/
  | invalidArgument (detail : String)
  /-- A file cannot be read. -/
  | file (detail : String)
  deriving Repr, DecidableEq

/-- The wording of a fault. -/
def Fault.message : Fault → String
  | .containerMissing name => s!"Container not found: {name}"
  | .engine cause => cause.message
  | .upstream cause => cause.message
  | .link cause => cause.message
  | .commandFailed code output => s!"Command exited with code {code}: {output}"
  | .sibling name => s!"Sibling service unavailable: {name}"
  | .malformed detail => s!"Malformed data: {detail}"
  | .invalidArgument detail => s!"Invalid argument: {detail}"
  | .file detail => s!"I/O error: {detail}"

/-- The name of the kind of a fault. -/
def Fault.kind : Fault → String
  | .containerMissing _ => "ContainerMissing"
  | .engine cause => cause.kind
  | .upstream cause => cause.kind
  | .link cause => cause.kind
  | .commandFailed .. => "CommandFailed"
  | .sibling _ => "Sibling"
  | .malformed _ => "MalformedData"
  | .invalidArgument _ => "InvalidArgument"
  | .file _ => "Io"

end NodeStack.Service
