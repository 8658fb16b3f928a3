import NodeStack.Upstream.JsonRpc

/-!
# `NodeStack.Upstream.Http`: calls over HTTP

- `Http.Answer`: an answer with its status.
- `JsonRpc.call`: a call written as JSON.
- `isHealthy`: whether a service says that it is well.

A call whose deadline has passed is not made.
-/

set_option autoImplicit false

namespace NodeStack.Upstream

/-- An answer with its status. -/
structure Http.Answer where
  code : Nat
  /-- The code and the reason. -/
  status : String
  body : String
  deriving Repr, DecidableEq

/-- A call written as JSON, with so much time left. `send` sends the document. -/
def JsonRpc.call (remaining : Nat) (send : Json → Except Fault Http.Answer) (method : String)
    (params : Json) : Except Fault Json :=
  if remaining = 0 then .error .timeout
  else
    match send (JsonRpc.requestBody method params) with
    | .error fault => .error fault
    | .ok a => JsonRpc.answerOfHttp a.code a.status a.body

/-- Whether a service says that it is well: it answers in time, and has nothing to say. -/
def isHealthy (remaining : Nat) (send : Unit → Except Fault Http.Answer) : Bool :=
  remaining != 0 &&
    match send () with
    | .ok a => a.code == 204
    | .error _ => false

/-- Whether there is an Ethereum node behind an address: it tells its version. -/
def probe (remaining : Nat) (send : Json → Except Fault Http.Answer) : Except Fault Unit :=
  (JsonRpc.call remaining send "net_version" (.arr [])).map fun _ => ()

end NodeStack.Upstream
