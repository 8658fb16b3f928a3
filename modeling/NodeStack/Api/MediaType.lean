import NodeStack.Text.Split

/-!
# `NodeStack.Api.MediaType`: the types of bodies

- `State`: where a reader stands in the parameters of a type.
- `isParameters`: whether a text is a list of parameters.
- `isJson`: whether a text is the type of JSON, or of a format written in it.

A type is written `main/sub`, with parameters behind it that begin with a semicolon each. A format
that is written in another one is named `sub+other`.
-/

set_option autoImplicit false

namespace NodeStack.Api.MediaType

/-- Whether a character can stand in a word of a type. -/
def isWordChar (c : Char) : Bool :=
  c.isAlphanum || "!#$%&'*+-.^_`|~".toList.contains c

/-- Whether a character can stand between quotes: any that is no control character. -/
def isQuotable (c : Char) : Bool := 32 ≤ c.toNat && c.toNat < 127

/-- Where a reader stands in the parameters of a type. -/
inductive State where
  /-- Before a parameter, or after the last one. -/
  | start
  | name
  | value (isEmpty : Bool)
  /-- In a value between quotes, which begins with a character of any kind. -/
  | quoted (isEmpty : Bool)
  /-- After a value between quotes. -/
  | closed
  deriving Repr, DecidableEq

namespace State

/-- Where a reader stands after the next character. -/
def step : State → Char → Option State
  | .start, c => if c = ' ' then some .start else if isWordChar c then some .name else none
  | .name, c => if c = '=' then some (.value true) else if isWordChar c then some .name else none
  | .value isEmpty, c =>
    if c = '"' then if isEmpty then some (.quoted true) else none
    else if c = ';' then if isEmpty then none else some .start
    else if isWordChar c then some (.value false)
    else none
  | .quoted isEmpty, c =>
    if c = '"' && !isEmpty then some .closed
    else if isQuotable c then some (.quoted false)
    else none
  | .closed, c => if c = ' ' then some .closed else if c = ';' then some .start else none

/-- Whether parameters can end there. -/
def isEnd : State → Bool
  | .start | .value _ | .closed => true
  | .name | .quoted _ => false

end State

/-- Whether a text is a list of parameters, the semicolon in front of the first one left out. -/
def isParameters (cs : List Char) : Bool :=
  match cs.foldlM State.step .start with
  | some s => s.isEnd
  | none => false

/-- The name of JSON. -/
def json : List Char := "json".toList

/-- Whether a subtype is JSON, or has a part before or behind its last plus sign that is. -/
def isJsonSubtype (sub : List Char) : Bool :=
  match Text.cut? ['+'] sub.reverse with
  | none | some (_, []) => sub == json
  | some (last, front) => front.reverse == json || last.reverse == json

/-- Whether a type without parameters is that of JSON. -/
def isJsonEssence (cs : List Char) : Bool :=
  match Text.cut? ['/'] cs with
  | some (main, sub) => main == "application".toList && sub.all isWordChar && isJsonSubtype sub
  | none => false

/-- Whether a text is the type of JSON, in any case. -/
def isJson (text : String) : Bool :=
  let cs := text.toList.map Char.toLower
  match Text.cut? [';'] cs with
  | some (essence, parameters) => isJsonEssence essence && isParameters parameters
  | none => isJsonEssence cs

end NodeStack.Api.MediaType
