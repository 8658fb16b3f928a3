/-!
# `NodeStack.Launcher.Fault`: what can go wrong with a call to a launcher

- `Exchange.Fault`: why a call of an exchange failed.
- `Launcher.Fault`: why a call to a launcher failed.
- `message`, `kind`: their wording and their names.
-/

set_option autoImplicit false

namespace NodeStack

namespace Exchange

/-- Why a call of an exchange failed. -/
inductive Fault where
  /-- The exchange is closed, or nobody takes its frames. -/
  | closed
  /-- The other side answered with an error. -/
  | remote (text : String)
  deriving Repr, DecidableEq

/-- The wording of a fault. -/
def Fault.message : Fault → String
  | .closed => "connection closed"
  | .remote text => text

/-- The name of the kind of a fault. -/
def Fault.kind : Fault → String
  | .closed => "ConnectionClosed"
  | .remote _ => "Remote"

end Exchange

namespace Launcher

/-- Why a call to a launcher failed. -/
inductive Fault where
  /-- No launcher is attached. -/
  | noLauncher
  /-- The exchange with the launcher failed. -/
  | exchange (cause : Exchange.Fault)
  /-- The deadline passed. -/
  | timeout
  /-- The answer could not be read. -/
  | malformed (detail : String)
  deriving Repr, DecidableEq

/-- The wording of a fault. -/
def Fault.message : Fault → String
  | .noLauncher => "no launcher"
  | .exchange cause => cause.message
  | .timeout => "launcher did not answer in time"
  | .malformed detail => s!"Malformed launcher response: {detail}"

/-- The name of the kind of a fault. -/
def Fault.kind : Fault → String
  | .noLauncher => "NoLauncher"
  | .exchange cause => cause.kind
  | .timeout => "Timeout"
  | .malformed _ => "MalformedLauncher"

end Launcher

end NodeStack
