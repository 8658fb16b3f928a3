import NodeStack.Dict
import NodeStack.Service.Lightning.Message
import NodeStack.Service.Swap.Call
import NodeStack.Service.Trading.Call
import NodeStack.Upstream.Fault

/-!
# `NodeStack.Scenario.Replies`: services that answer from a script

- `Value`: what a service can answer.
- `Reply`: an answer with its delay; `Flight`: an answer under way.
- `Replies`: the answers that lie ready for each method, with a record of the calls.

Each call takes the next answer of its method. A sticky answer stays.
-/

set_option autoImplicit false

namespace NodeStack.Scenario

namespace Replies

/-- What a service can answer. -/
inductive Value where
  | json (value : Json)
  | flag (value : Bool)
  | lightning (info : Service.Lightning.Info)
  | trading (info : Service.Trading.Info)
  | balances (balances : Service.Trading.Balances)
  | created (node : Service.Trading.Created)
  | unlocked (node : Service.Trading.Unlocked)

/-- An answer with its delay. -/
structure Reply where
  delay : Nat
  /-- The answer never comes. -/
  hangs : Bool
  outcome : Except Upstream.Fault Value
  /-- The answer stays for later calls. -/
  sticky : Bool

/-- An answer under way. -/
structure Flight where
  /-- When it is there, unless it never comes. -/
  due : Option Nat
  outcome : Except Upstream.Fault Value

/-- The answer, if it is there at the time `now`. -/
def Flight.outcome? (now : Nat) (f : Flight) : Option (Except Upstream.Fault Value) :=
  match f.due with
  | some due => if due ≤ now then some f.outcome else none
  | none => none

/-- A call that was made. -/
structure Note where
  service : String
  method : String
  arguments : Json

end Replies

open Replies in
/-- The answers that lie ready, with a record of the calls. -/
structure Replies where
  /-- The answers for each method of each service. -/
  queues : List ((String × String) × List Reply)
  /-- The services are really called, and nobody answers. -/
  deserted : Bool
  /-- The calls that were made, oldest first. -/
  notes : List Note

namespace Replies

/-- Services without answers. -/
def none_ (deserted : Bool) : Replies := ⟨[], deserted, []⟩

/-- The answers for a method of a service. -/
def queue (service method : String) (r : Replies) : List Reply :=
  (r.queues.lookup (service, method)).getD []

/-- Sets the answers for a method of a service. -/
def setQueue (service method : String) (replies : List Reply) (r : Replies) : Replies :=
  { r with
    queues := ((service, method), replies) ::
      r.queues.filter fun (key, _) => key != (service, method) }

/-- Adds an answer behind the others, or in their place. -/
def add (service method : String) (reply : Reply) (reset : Bool) (r : Replies) : Replies :=
  let others := if reset then [] else r.queue service method
  r.setQueue service method (others ++ [reply])

/-- The answer when none lies ready. -/
def unanswered (now : Nat) (fault : Upstream.Fault) : Flight := ⟨some now, .error fault⟩

/-- What is left of some answers when the first has been taken. -/
def afterTaking (reply : Reply) (rest : List Reply) : List Reply :=
  if reply.sticky then reply :: rest else rest

/-- A call at the time `now`: the answer under way. `absent` is the fault of a service that is
really called, and not there. -/
def call (service method : String) (arguments : Json) (absent : Upstream.Fault) (now : Nat)
    (r : Replies) : Flight × Replies :=
  if r.deserted then (unanswered now absent, r)
  else
    let r := { r with notes := r.notes ++ [Note.mk service method arguments] }
    match r.queue service method with
    | [] => (unanswered now .noClient, r)
    | reply :: rest =>
      (⟨if reply.hangs then none else some (now + reply.delay), reply.outcome⟩,
        r.setQueue service method (afterTaking reply rest))

/-! ### Reading answers -/

/-- The fault of an answer of the wrong type. -/
def wrongType : Upstream.Fault := .noClient

/-- An answer that is a JSON value. -/
def asJson : Except Upstream.Fault Value → Except Upstream.Fault Json
  | .ok (.json v) => .ok v
  | .ok _ => .error wrongType
  | .error fault => .error fault

/-- An answer of which only the success counts. -/
def asUnit (outcome : Except Upstream.Fault Value) : Except Upstream.Fault Unit :=
  outcome.map fun _ => ()

/-- An answer that is yes or no; a fault is no. -/
def asFlag : Except Upstream.Fault Value → Bool
  | .ok (.flag b) => b
  | _ => false

/-- An answer of a lightning node. -/
def asLightning : Except Upstream.Fault Value → Except Upstream.Fault Service.Lightning.Info
  | .ok (.lightning i) => .ok i
  | .ok _ => .error wrongType
  | .error fault => .error fault

/-- An answer to a call of a trading daemon. -/
def asTrading : (call : Service.Trading.Call) → Except Upstream.Fault Value →
    Except Upstream.Fault call.Answer
  | .info, .ok (.trading i) => .ok i
  | .balance _, .ok (.balances b) => .ok b
  | .create _, .ok (.created n) => .ok n
  | .unlock _, .ok (.unlocked n) => .ok n
  | _, .ok _ => .error wrongType
  | _, .error fault => .error fault

end Replies

end NodeStack.Scenario
