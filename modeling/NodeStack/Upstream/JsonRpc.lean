import NodeStack.Json.Record
import NodeStack.Text.Blank
import NodeStack.Upstream.Fault

/-!
# `NodeStack.Upstream.JsonRpc`: calls written as JSON

- `requestBody`: the document a call sends.
- `answerOf`: the result of a call, from the document sent back.
- `answerOfHttp`: the same, from an answer with a status code.
-/

set_option autoImplicit false

namespace NodeStack.Upstream.JsonRpc

/-- The document a call sends. -/
def requestBody (method : String) (params : Json) : Json :=
  Json.ofMembers
    [("jsonrpc", .str "1.0"), ("id", Json.ofNat 1), ("method", .str method), ("params", params)]

/-- The value of a field nested `depth` levels inside a document. -/
def valueAt (depth : Nat) (t : Json.Tree) : Option Json :=
  t.jsonWithin? (Json.Tree.nestingLimit - depth)

/-- A whole number of 64 signed bits. -/
def codeOf? (t : Json.Tree) : Option Int :=
  (valueAt 2 t).bind Json.integer?

/-- A text. -/
def textOf? (t : Json.Tree) : Option String :=
  (valueAt 2 t).bind Json.text?

/-- A field that takes a default when it is absent. -/
def fieldOr {α : Type} (default : α) (read : Json.Tree → Option α) :
    Option Json.Tree → Option α
  | none => some default
  | some t => read t

/-- The error a document gives: a code and a text. -/
def remoteOf? (t : Json.Tree) : Option Fault := do
  match ← t.fields? ["code", "message"] with
  | [code, message] =>
    let code ← fieldOr 0 codeOf? code
    let message ← fieldOr "" textOf? message
    pure (.remote code message)
  | _ => none

/-- The error member of a document: absent or `null`, or an error. -/
def errorOf? : Option Json.Tree → Option (Option Fault)
  | none | some .null => some none
  | some t => (remoteOf? t).map some

/-- The result or the error a document gives, if it can be read. -/
def envelope? (text : String) : Option (Except Fault Json) := do
  let t ← Json.Tree.ofChars? text.toList
  match ← t.fields? ["result", "error"] with
  | [result, error] =>
    let result ← fieldOr .null (valueAt 1) result
    match ← errorOf? error with
    | some fault => pure (.error fault)
    | none => pure (.ok result)
  | _ => none

/-- The result of a call, from the document sent back. -/
def answerOf (text : String) : Except Fault Json :=
  (envelope? text).getD (.error (.malformed Json.unreadable))

/-- The result of a call, from an answer with a status: a document that cannot be read is told with
a status that is no success, named by its code and its reason. -/
def answerOfHttp (code : Nat) (status : String) (text : String) : Except Fault Json :=
  match envelope? text with
  | some answer => answer
  | none =>
    if 200 ≤ code && code < 300 then .error (.malformed Json.unreadable)
    else .error (.malformed s!"HTTP {status}: {Text.trim text}")

end NodeStack.Upstream.JsonRpc
