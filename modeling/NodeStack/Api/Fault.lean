import NodeStack.Stack.Fault
import NodeStack.Launcher.Fault

/-!
# `NodeStack.Api.Fault`: how faults are told to a client

- `Fault`: the kinds of failure a client can be told, each with a message.
- `Fault.status`, `Fault.kind`: the status code and the name of each kind.
- `ofUpstream`, `ofService`, `ofStack`, `ofLauncher`: the kind a fault of each layer is told as.
-/

set_option autoImplicit false

namespace NodeStack.Api

/-- A failure as it is told to a client. -/
inductive Fault where
  | notFound (message : String)
  | badRequest (message : String)
  | unavailable (message : String)
  | timeout (message : String)
  | internal (message : String)
  deriving Repr, DecidableEq

namespace Fault

/-- The status code of a failure. -/
def status : Fault → Nat
  | .notFound _ => 404
  | .badRequest _ => 400
  | .unavailable _ => 503
  | .timeout _ => 504
  | .internal _ => 500

/-- The name of the kind of a failure. -/
def kind : Fault → String
  | .notFound _ => "NotFound"
  | .badRequest _ => "BadRequest"
  | .unavailable _ => "Unavailable"
  | .timeout _ => "Timeout"
  | .internal _ => "Internal"

/-- The message of a failure. -/
def message : Fault → String
  | .notFound m | .badRequest m | .unavailable m | .timeout m | .internal m => m

/-- A fault of an upstream service. A service that cannot be reached is unavailable; its status
text is passed on without the code. -/
def ofUpstream (fault : Upstream.Fault) : Fault :=
  if fault.unreachable then .unavailable fault.message
  else
    match fault with
    | .status .invalidArgument text => .badRequest text
    | .status _ text => .internal text
    | other => .internal other.message

/-- A fault of a service. -/
def ofService : Service.Fault → Fault
  | .invalidArgument detail => .badRequest detail
  | .containerMissing name => .notFound (Service.Fault.containerMissing name).message
  | .engine (.containerNotFound name) => .notFound (Engine.Fault.containerNotFound name).message
  | .engine (.invalidSince raw) => .badRequest (Engine.Fault.invalidSince raw).message
  | .upstream cause => ofUpstream cause
  | other => .internal other.message

/-- A fault of the stack. -/
def ofStack : Stack.Fault → Fault
  | .notFound name => .notFound (Stack.Fault.notFound name).message
  | other => .internal other.message

/-- A fault of a call to a launcher. -/
def ofLauncher : Launcher.Fault → Fault
  | .noLauncher => .unavailable Launcher.Fault.noLauncher.message
  | .timeout => .timeout Launcher.Fault.timeout.message
  | .exchange (.remote text) => .internal text
  | other => .internal other.message

end Fault

end NodeStack.Api
