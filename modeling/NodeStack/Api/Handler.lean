import NodeStack.Api.Form
import NodeStack.Api.Question
import NodeStack.Api.Request
import NodeStack.Api.Response
import NodeStack.Api.Route
import NodeStack.Plan
import NodeStack.Stack.Registry
import NodeStack.Text.Case

/-!
# `NodeStack.Api.Handler`: answering a client

- `View`: what can be said without asking anything.
- `Handling`: a procedure that ends with a response.
- `handle`: the response to a request.

A request is judged from the outside in: the place, the method, the parts of the path, the query,
the body, and then what the place itself makes of them.
-/

set_option autoImplicit false

namespace NodeStack.Api

open Service (Kind)
open Stack (Registry)

/-- What can be said about the stack without asking anything. -/
structure View where
  registry : Registry
  /-- The journal of the setup, if it is followed. -/
  journal : Option Setup.Journal
  /-- How many launchers are attached. -/
  launchers : Nat
  now : Time.Stamp

/-- A procedure that ends with a response. -/
abbrev Handling := Plan Question Question.Answer Response

/-- Asks for something. -/
def ask (q : Question) : Plan Question Question.Answer q.Answer := .ask q .done

/-- The response to an answer: a value, or a failure. -/
def respond {ε α : Type} (tell : ε → Fault) (json : α → Json) : Except ε α → Response
  | .ok a => .ofJson 200 (json a)
  | .error fault => .ofFault (tell fault)

/-- The response when there is no service of that name. -/
def unknownService (name : String) : Response :=
  .ofFault (.ofStack (.notFound name))

/-! ### Health, statuses and services -/

/-- How far the setup has come; nothing is known of it when it is not followed. -/
def View.setup (v : View) : Setup.Progress :=
  match v.journal with
  | some j => j.progress
  | none => .unknown

/-- The health of the gateway. -/
def health (v : View) : Response :=
  .ofJson 200 (Json.ofMembers
    [("status", .str "healthy"), ("timestamp", .str v.now.text),
     ("services", Json.ofNat v.registry.size), ("launchers", Json.ofNat v.launchers),
     ("setup", .str v.setup.name)])

/-- A service with its status. -/
def statusJson (service status : String) : Json :=
  Json.ofMembers [("service", .str service), ("status", .str status)]

/-- The statuses of all services, in the order of the registry. -/
def statusList (r : Registry) (statuses : Dict String) : Json :=
  .arr (r.services.map fun s => statusJson s.name ((statuses.get? s.name).getD ""))

/-- The statuses of all services. -/
def allStatuses (v : View) : Handling := do
  let statuses ← ask .statuses
  pure (.ofJson 200 (statusList v.registry statuses))

/-- The status of a service. -/
def oneStatus (v : View) (name : String) : Handling :=
  match v.registry.byName? name with
  | none => pure (unknownService name)
  | some i => do
    let status ← ask (.status i)
    pure (.ofJson 200 (statusJson name status))

/-- A service with its container. -/
def serviceJson (s : Service) : Json :=
  Json.ofMembers
    [("service", .str s.name), ("container", .str s.handle.container),
     ("disabled", .bool s.handle.disabled), ("mode", .str s.handle.mode)]

/-- All services. -/
def services (v : View) : Response :=
  .ofJson 200 (.arr (v.registry.services.map serviceJson))

/-! ### Logs and the setup -/

/-- Where a log begins, unless the client says so. -/
def logSince : String := "1h"

/-- How much of a log is given, unless the client says so. -/
def logTail : String := "all"

/-- Lines as a text. -/
def linesText (lines : List String) : String :=
  let text := Text.joinWith "\n" lines
  if text.isEmpty then text else text ++ "\n"

/-- The value of a name in a query; a fault if it is given twice. -/
def parameter? (name : String) (query : List (String × String)) : Except Unit (Option String) :=
  match query.filter fun (n, _) => n == name with
  | [] => .ok none
  | [(_, value)] => .ok (some value)
  | _ => .error ()

/-- The part of a log that a query asks for. -/
def logRange? (query : List (String × String)) : Except Unit (Option String × Option String) := do
  let since ← parameter? "since" query
  let tail ← parameter? "tail" query
  pure (since, tail)

/-- The log of a service as a file. -/
def logFile (v : View) (name : String) (since tail : Option String) : Handling :=
  match v.registry.byName? name with
  | none => pure (unknownService name)
  | some i => do
    match ← ask (.log i (some (since.getD logSince)) (some (tail.getD logTail))) with
    | .ok lines => pure (.attachment s!"{name}.log" (linesText lines))
    | .error fault => pure (.ofFault (.ofService fault))

/-- The log of a service as it comes. -/
def logStream (v : View) (name : String) (since tail : Option String) : Handling :=
  match v.registry.byName? name with
  | none => pure (unknownService name)
  | some i => do
    let follower ← ask (.follow i since tail)
    pure ⟨200, some Response.plainText, none, .log follower⟩

/-- The setup as it comes. -/
def setupStream (v : View) : Response :=
  match v.journal with
  | none => .ofFault (.unavailable "setup agent is not running")
  | some j => ⟨200, some "application/x-ndjson", none, .setup (SetupStream.start j)⟩

/-! ### Launchers -/

/-- What a launcher tells about the stack. -/
def launcherInfo : Handling := do
  let answer ← ask (.launcher .info)
  pure (respond Fault.ofLauncher id answer)

/-- Has a launcher put backups in another place. -/
def moveBackups (location : String) : Handling := do
  match ← ask (.launcher (.backup location)) with
  | .ok _ => pure (.bare 204)
  | .error fault => pure (.ofFault (.ofLauncher fault))

/-! ### The trading daemon and the swap service -/

/-- The name of the trading daemon. -/
def tradingName : String := "opendexd"

/-- The name of the swap service. -/
def swapName : String := "boltz"

/-- The place of the service of a name, if it is of the right kind. -/
def placeOf? (r : Registry) (name : String) (isKind : Kind → Bool) : Option Nat :=
  (r.byName? name).filter fun i =>
    match r.get? i with
    | some s => isKind s.kind
    | none => false

/-- Whether a service is a trading daemon. -/
def isTrading : Kind → Bool
  | .trading _ => true
  | _ => false

/-- Whether a service is a swap service. -/
def isSwap : Kind → Bool
  | .swap => true
  | _ => false

/-- A call of the trading daemon. -/
def callTrading (v : View) (call : Service.Trading.Call) : Handling :=
  match placeOf? v.registry tradingName isTrading with
  | none => pure (unknownService tradingName)
  | some i => do
    let answer ← ask (.trading i call)
    pure (respond Fault.ofUpstream call.answerJson answer)

/-- A call of the swap service for the currency that a text names. -/
def callSwap (v : View) (currency : String) (call : Service.Swap.Call) : Handling :=
  match Service.Swap.Currency.ofText? currency with
  | .error fault => pure (.ofFault (.ofService fault))
  | .ok currency =>
    match placeOf? v.registry swapName isSwap with
    | none => pure (unknownService swapName)
    | some i => do
      let answer ← ask (.swap i currency call)
      pure (respond Fault.ofUpstream call.answerJson answer)

/-! ### Parts of a request -/

/-- Goes on with the text of a part of the path. -/
def withSegment (segment : List Char) (next : String → Handling) : Handling :=
  match segmentText? segment with
  | some text => next text
  | none => pure (.bare 400)

/-- Goes on with the part of a log that the query asks for. -/
def withRange (r : Request) (next : Option String → Option String → Handling) : Handling :=
  match logRange? r.query with
  | .ok (since, tail) => next since tail
  | .error () => pure (.bare 400)

/-- Goes on with the fields of the body. -/
def withForm (fields : List Form.Field) (r : Request) (next : List Json → Handling) : Handling :=
  if r.saysJson then
    match Form.read fields r.body with
    | .ok values => next values
    | .error .unreadable => pure (.bare 400)
    | .error .shape => pure (.bare 422)
  else pure (.bare 415)

/-- The fields of a body with a password. -/
def passwordForm : List Form.Field := [⟨"password", .text, none⟩]

/-- The fields of a body with a place for backups. -/
def backupForm : List Form.Field := [⟨"location", .text, none⟩]

/-- The fields of a body about a deposit. -/
def depositForm : List Form.Field :=
  [⟨"inbound_liquidity", .below (2 ^ 32), some (Json.ofNat 0)⟩]

/-- The fields of a body about a withdrawal. -/
def withdrawalForm : List Form.Field := [⟨"amount", .integer, none⟩, ⟨"address", .text, none⟩]

/-- The text in a place of a form. -/
def textAt (i : Nat) (values : List Json) : String := ((values[i]?).bind Json.text?).getD ""

/-- The whole number in a place of a form. -/
def integerAt (i : Nat) (values : List Json) : Int := ((values[i]?).bind Json.integer?).getD 0

/-! ### Requests -/

/-- The response of a place. -/
def handleAt (v : View) (r : Request) : Route → Handling
  | .health => pure (health v)
  | .launcher => pure (.bare 400)
  | .statuses => allStatuses v
  | .status s => withSegment s (oneStatus v)
  | .services => pure (services v)
  | .log s => withSegment s fun name => withRange r (logFile v name)
  | .follow s => withSegment s fun name => withRange r (logStream v name)
  | .setup => pure (setupStream v)
  | .info => launcherInfo
  | .backup => withForm backupForm r fun vs => moveBackups (textAt 0 vs)
  | .trading => callTrading v .info
  | .balances => callTrading v (.balance none)
  | .balance c => withSegment c fun c => callTrading v (.balance (some (Text.Case.upper c)))
  | .create => withForm passwordForm r fun vs => callTrading v (.create (textAt 0 vs))
  | .unlock => withForm passwordForm r fun vs => callTrading v (.unlock (textAt 0 vs))
  | .terms c => withSegment c fun c => callSwap v c .terms
  | .deposit c => withSegment c fun c => withForm depositForm r fun vs =>
      callSwap v c (.deposit (integerAt 0 vs).toNat)
  | .withdraw c => withSegment c fun c => withForm withdrawalForm r fun vs =>
      callSwap v c (.withdraw (integerAt 0 vs) (textAt 1 vs))

/-- The response to a request. -/
def handle (v : View) (r : Request) : Handling :=
  match Route.find? r.segments with
  | none => pure (.bare 404)
  | some route =>
    if route.takes r.method then do
      let response ← handleAt v r route
      pure (if r.method == "HEAD" then response.withoutBody else response)
    else pure (.bare 405)

end NodeStack.Api
