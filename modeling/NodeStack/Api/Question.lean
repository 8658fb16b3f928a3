import NodeStack.Launcher.Call
import NodeStack.Service.Fault
import NodeStack.Service.Swap.Call
import NodeStack.Service.Swap.Currency
import NodeStack.Service.Trading.Call

/-!
# `NodeStack.Api.Question`: what a client's request asks of the stack

- `Question`, `Question.Answer`: what the handling of a request can ask for.

A service is named by its place in the registry. Every answer comes by the deadline of the request,
except that the end of a log is waited for.
-/

set_option autoImplicit false

namespace NodeStack.Api

/-- What the handling of a request can ask for. -/
inductive Question where
  /-- The status of a service. -/
  | status (service : Nat)
  /-- The status of every service. -/
  | statuses
  /-- The log of a service, as far as it has come. -/
  | log (service : Nat) (since tail : Option String)
  /-- To follow the log of a service; the answer is the number of the follower. -/
  | follow (service : Nat) (since tail : Option String)
  /-- An errand for a launcher. -/
  | launcher (errand : Launcher.Errand)
  /-- A call of a trading daemon. -/
  | trading (service : Nat) (call : Service.Trading.Call)
  /-- A call of a swap service. -/
  | swap (service : Nat) (currency : Service.Swap.Currency) (call : Service.Swap.Call)

/-- The type of the answers to a question. -/
def Question.Answer : Question → Type
  | .status _ => String
  | .statuses => Dict String
  | .log .. => Except Service.Fault (List String)
  | .follow .. => Nat
  | .launcher _ => Except Launcher.Fault Json
  | .trading _ call => Except Upstream.Fault call.Answer
  | .swap _ _ call => Except Upstream.Fault call.Answer

end NodeStack.Api
