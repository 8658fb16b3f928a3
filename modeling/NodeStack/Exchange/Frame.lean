import NodeStack.Json.Printer
import NodeStack.Json.Record
import NodeStack.Launcher.Fault

/-!
# `NodeStack.Exchange.Frame`: the frames of an exchange

- `Request`, `Response`: what either side can send.
- `Request.render`, `Response.render`: their text.
- `Frame.ofText?`: reads a frame: a request if it is one, else a response.
- `Response.outcome`: the result of an answered call.
-/

set_option autoImplicit false

namespace NodeStack.Exchange

/-- A call to the other side. -/
structure Request where
  id : Nat
  method : String
  params : Json
  deriving Repr

/-- The answer to a call. -/
structure Response where
  id : Nat
  result : Json
  error : Json
  deriving Repr

/-- A frame from the other side. -/
inductive Frame where
  | request (r : Request)
  | response (r : Response)
  deriving Repr

namespace Request

/-- The request as a JSON value. -/
def json (r : Request) : Json :=
  Json.ofMembers [("id", Json.ofNat r.id), ("method", .str r.method), ("params", r.params)]

/-- The text of a request, in the order of its fields. -/
def render (r : Request) : String :=
  Json.renderRecord
    [("id", Json.ofNat r.id), ("method", .str r.method), ("params", r.params)]

end Request

namespace Response

/-- The response as a JSON value. -/
def json (r : Response) : Json :=
  Json.ofMembers [("id", Json.ofNat r.id), ("result", r.result), ("error", r.error)]

/-- The text of a response, in the order of its fields. -/
def render (r : Response) : String :=
  Json.renderRecord
    [("id", Json.ofNat r.id), ("result", r.result), ("error", r.error)]

/-- The result of an answered call. An error that is no text is told by its JSON text. -/
def outcome (r : Response) : Except Fault Json :=
  match r.error with
  | .null => .ok r.result
  | .str text => .error (.remote text)
  | other => .error (.remote other.render)

end Response

/-- An id: a whole number below `2 ^ 64`. -/
def idOf? (t : Json.Tree) : Option Nat :=
  t.json?.bind (Json.below? (2 ^ 64))

/-- A field that is `null` when it is absent. -/
def valueOf? : Option Json.Tree → Option Json
  | none => some .null
  | some t => t.json?

/-- The request a document is, if it is one. -/
def Request.ofTree? (t : Json.Tree) : Option Request := do
  match ← t.fields? ["id", "method", "params"] with
  | [id, method, params] =>
    let id ← id.bind idOf?
    let method ← method.bind fun t => t.json?.bind Json.text?
    let params ← valueOf? params
    pure ⟨id, method, params⟩
  | _ => none

/-- The response a document is, if it is one. -/
def Response.ofTree? (t : Json.Tree) : Option Response := do
  match ← t.fields? ["id", "result", "error"] with
  | [id, result, error] =>
    let id ← id.bind idOf?
    let result ← valueOf? result
    let error ← valueOf? error
    pure ⟨id, result, error⟩
  | _ => none

/-- The response that a text is, read on its own: members it does not know need only a shape. -/
def Response.ofText? (text : String) : Option Response := do
  let t ← Json.Tree.ofChars? text.toList
  match ← t.fields? ["id", "result", "error"] with
  | [id, result, error] =>
    let id ← id.bind idOf?
    let within (t : Json.Tree) := t.jsonWithin? (Json.Tree.nestingLimit - 1)
    let result ← match result with
      | none => some .null
      | some t => within t
    let error ← match error with
      | none => some .null
      | some t => within t
    pure ⟨id, result, error⟩
  | _ => none

/-- The frame that a text is. All of the text must be readable, members not known included. -/
def Frame.ofText? (text : String) : Option Frame := do
  let t ← Json.Tree.ofChars? text.toList
  let _ ← t.json?
  match Request.ofTree? t with
  | some r => pure (.request r)
  | none => (Response.ofTree? t).map .response

end NodeStack.Exchange
