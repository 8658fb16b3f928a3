import NodeStack.Api.MediaType
import NodeStack.Text.Case
import NodeStack.Text.Percent
import NodeStack.Text.Split

/-!
# `NodeStack.Api.Request`: what a client asks

- `Request`: the method, the target and the body.
- `Request.segments`, `Request.query`: the parts of the target.
- `segmentText?`: the text of a part of the path.
- `Request.saysJson`: whether the body is said to be JSON.
-/

set_option autoImplicit false

namespace NodeStack.Api

/-- What a client asks. -/
structure Request where
  method : String
  /-- The path, and a question mark and the query behind it. -/
  target : String
  /-- The type of the body, if one is given. -/
  contentType : Option String
  body : String
  deriving Repr, DecidableEq

/-- The text of a part of a path, if its bytes are well formed. -/
def segmentText? (segment : List Char) : Option String :=
  (Text.Utf8.decode? (Text.Percent.unescape segment)).map String.ofList

/-- The text of a part of a query: a plus sign stands for a blank, and malformed bytes are
replaced. -/
def queryText (part : List Char) : String :=
  let spaced := part.map fun c => if c = '+' then ' ' else c
  String.ofList (Text.Utf8.decodeLossy (Text.Percent.unescape spaced))

/-- A name and a value of a query, split at the first equals sign. -/
def queryPair (piece : List Char) : String × String :=
  match Text.cut? ['='] piece with
  | some (name, value) => (queryText name, queryText value)
  | none => (queryText piece, "")

namespace Request

/-- The target without a fragment. -/
def plainTarget (r : Request) : List Char := r.target.toList.takeWhile (· != '#')

/-- The parts of the path between the slashes; the first stands before the first slash. -/
def segments (r : Request) : List (List Char) :=
  Text.pieces ['/'] (r.plainTarget.takeWhile (· != '?'))

/-- The names and values of the query. -/
def query (r : Request) : List (String × String) :=
  match Text.cut? ['?'] r.plainTarget with
  | some (_, query) =>
    ((Text.pieces ['&'] query).filter fun piece => !piece.isEmpty).map queryPair
  | none => []

end Request

/-- Whether the body is said to be JSON. -/
def Request.saysJson (r : Request) : Bool :=
  match r.contentType with
  | some type => MediaType.isJson type
  | none => false

end NodeStack.Api
