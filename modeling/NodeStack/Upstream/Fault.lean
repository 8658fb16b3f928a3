/-!
# `NodeStack.Upstream.Fault`: what can go wrong with an upstream service

- `Code`: the status codes of a remote procedure call.
- `Fault`: why a call failed; `Fault.unreachable` tells a service that does not answer from one that
  answers badly.
- `LinkFault`: why a connection could not be made or kept.
- `kind`: the names of the kinds of faults.
-/

set_option autoImplicit false

namespace NodeStack.Upstream

/-- The status code of a remote procedure call. -/
inductive Code where
  | ok
  | cancelled
  | unknown
  | invalidArgument
  | deadlineExceeded
  | notFound
  | alreadyExists
  | permissionDenied
  | resourceExhausted
  | failedPrecondition
  | aborted
  | outOfRange
  | unimplemented
  | internal
  | unavailable
  | dataLoss
  | unauthenticated
  deriving Repr, DecidableEq

/-- The codes in the order of their numbers. -/
def Code.all : List Code :=
  [.ok, .cancelled, .unknown, .invalidArgument, .deadlineExceeded, .notFound, .alreadyExists,
   .permissionDenied, .resourceExhausted, .failedPrecondition, .aborted, .outOfRange,
   .unimplemented, .internal, .unavailable, .dataLoss, .unauthenticated]

/-- The code of a number; `unknown` for a number that has none. -/
def Code.ofNumber (n : Int) : Code :=
  if 0 ≤ n then (Code.all[n.toNat]?).getD .unknown else .unknown

/-- The name of a code. -/
def Code.name : Code → String
  | .ok => "Ok"
  | .cancelled => "Cancelled"
  | .unknown => "Unknown"
  | .invalidArgument => "InvalidArgument"
  | .deadlineExceeded => "DeadlineExceeded"
  | .notFound => "NotFound"
  | .alreadyExists => "AlreadyExists"
  | .permissionDenied => "PermissionDenied"
  | .resourceExhausted => "ResourceExhausted"
  | .failedPrecondition => "FailedPrecondition"
  | .aborted => "Aborted"
  | .outOfRange => "OutOfRange"
  | .unimplemented => "Unimplemented"
  | .internal => "Internal"
  | .unavailable => "Unavailable"
  | .dataLoss => "DataLoss"
  | .unauthenticated => "Unauthenticated"

/-- Why a call to an upstream service failed. -/
inductive Fault where
  /-- There is no connection to call on. -/
  | noClient
  /-- The deadline passed. -/
  | timeout
  /-- The service answered with a status. -/
  | status (code : Code) (text : String)
  /-- The transport failed, while connecting or later. -/
  | transport (connecting : Bool)
  /-- The service answered with an error of its own. -/
  | remote (code : Int) (text : String)
  /-- The answer could not be read. -/
  | malformed (detail : String)
  deriving Repr, DecidableEq

/-- The wording of a fault. -/
def Fault.message : Fault → String
  | .noClient => "no client"
  | .timeout => "deadline exceeded"
  | .status code text => s!"rpc error: code = {code.name} desc = {text}"
  | .transport _ => "HTTP error"
  | .remote code text => s!"{text} (code {code})"
  | .malformed detail => s!"Malformed response: {detail}"

/-- The name of the kind of a fault. -/
def Fault.kind : Fault → String
  | .noClient => "NoClient"
  | .timeout => "Timeout"
  | .status .. => "Status"
  | .transport _ => "Http"
  | .remote .. => "Remote"
  | .malformed _ => "Malformed"

/-- Whether the service cannot be reached, as opposed to answering badly. -/
def Fault.unreachable : Fault → Bool
  | .noClient | .timeout => true
  | .transport connecting => connecting
  | .status code _ => code == .unavailable
  | .remote .. | .malformed _ => false

/-- Why a connection could not be made or kept. -/
inductive LinkFault where
  /-- The address cannot be dialled. -/
  | invalidTarget (detail : String)
  /-- The certificate cannot be used. -/
  | tls (detail : String)
  /-- The credential cannot be used. -/
  | credential (detail : String)
  /-- The service does not answer. -/
  | unavailable (detail : String)
  /-- The loop that keeps the connection broke down. -/
  | worker (detail : String)
  deriving Repr, DecidableEq

/-- The wording of a fault. -/
def LinkFault.message : LinkFault → String
  | .invalidTarget detail => s!"Invalid target: {detail}"
  | .tls detail => s!"TLS configuration error: {detail}"
  | .credential detail => s!"Credential error: {detail}"
  | .unavailable detail => s!"Connection failed: {detail}"
  | .worker detail => s!"Connection worker failed: {detail}"

/-- The name of the kind of a fault. -/
def LinkFault.kind : LinkFault → String
  | .invalidTarget _ => "InvalidTarget"
  | .tls _ => "Tls"
  | .credential _ => "Credential"
  | .unavailable _ => "Unavailable"
  | .worker _ => "Worker"

end NodeStack.Upstream
