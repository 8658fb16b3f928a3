import NodeStack.Api.Fault
import NodeStack.Api.SetupStream

/-!
# `NodeStack.Api.Response`: what a client is answered

- `Body`: a value, a text, or something that comes bit by bit.
- `Response`: a status with a body and what is said about it.
-/

set_option autoImplicit false

namespace NodeStack.Api

/-- The body of a response. -/
inductive Body where
  | empty
  | json (value : Json)
  | text (text : String)
  /-- The lines that a follower of a log passes on. -/
  | log (follower : Nat)
  /-- The entries of the setup. -/
  | setup (stream : SetupStream)

/-- What a client is answered. -/
structure Response where
  status : Nat
  /-- The type of the body, if one is given. -/
  contentType : Option String
  /-- What to do with the body, if it is said. -/
  disposition : Option String
  body : Body

namespace Response

/-- A response with a value. -/
def ofJson (status : Nat) (value : Json) : Response :=
  ⟨status, some "application/json", none, .json value⟩

/-- A response that says nothing but its status. -/
def bare (status : Nat) : Response := ⟨status, none, none, .empty⟩

/-- The response that tells a failure. -/
def ofFault (fault : Fault) : Response :=
  .ofJson fault.status (Json.ofMembers [("message", .str fault.message)])

/-- The type of plain text. -/
def plainText : String := "text/plain; charset=utf-8"

/-- Whether a text can stand in a header: it has no control character but the tab. -/
def isHeaderText (s : String) : Bool :=
  s.toList.all fun c => c = '\t' || (c.toNat ≥ 0x20 && c.toNat != 0x7F)

/-- A text to be saved under a name. -/
def attachment (name text : String) : Response :=
  let disposition := "attachment; filename=\"" ++ name ++ "\""
  if isHeaderText disposition then ⟨200, some plainText, some disposition, .text text⟩
  else .bare 500

/-- The response without its body. -/
def withoutBody (r : Response) : Response := { r with body := .empty }

end Response

end NodeStack.Api
