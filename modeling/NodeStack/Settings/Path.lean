import NodeStack.Json.Basic
import NodeStack.Settings.Read
import NodeStack.Text.Digits

/-!
# `NodeStack.Settings.Path`: places inside settings

- `Path`: the name of a part, and the steps from there on, each by a name or by a position.
- `Path.ofText?`: a path as it is written, `server.bind_address` or `services[0].name`.
- `Path.put`: settings with a value put at a place.

What does not lead on where a path goes through it gives way: a name needs an object, a position
needs a list.
-/

set_option autoImplicit false

namespace NodeStack.Settings

/-- A step of a path. -/
inductive Path.Step where
  | name (name : String)
  /-- A position, from the end if it is negative. -/
  | position (index : Int)
  deriving Repr, DecidableEq

/-- A place inside settings. -/
structure Path where
  root : String
  steps : List Path.Step
  deriving Repr, DecidableEq

namespace Path

/-! ### Reading -/

/-- Whether a character can stand in a name. -/
def isNamePart (c : Char) : Bool := c.isAlphanum || c = '_' || c = '-'

/-- Whether a character is a blank around a position. -/
def isGap (c : Char) : Bool := c = ' ' || c = '\t'

/-- A name at the beginning of a text, and what follows it. -/
def name? (cs : List Char) : Option (String × List Char) :=
  let name := cs.takeWhile isNamePart
  if name.isEmpty then none else some (String.ofList name, cs.drop name.length)

/-- A position at the beginning of a text with its closing bracket, and what follows. -/
def position? (cs : List Char) : Option (Int × List Char) := do
  let inside := cs.takeWhile (· != ']')
  let digits := ((inside.dropWhile isGap).reverse.dropWhile isGap).reverse
  let index ← if digits.head? = some '+' then none else Text.integer? digits
  match cs.drop inside.length with
  | ']' :: rest => pure (index, rest)
  | _ => none

/-- The steps that a text writes. -/
def steps? : (fuel : Nat) → List Char → Option (List Step)
  | _, [] => some []
  | 0, _ => none
  | fuel + 1, '.' :: rest => do
    let (name, rest) ← name? rest
    let steps ← steps? fuel rest
    pure (.name name :: steps)
  | fuel + 1, '[' :: rest => do
    let (index, rest) ← position? rest
    let steps ← steps? fuel rest
    pure (.position index :: steps)
  | _, _ => none

/-- A path as it is written. -/
def ofText? (text : String) : Option Path := do
  let (root, rest) ← name? text.toList
  let steps ← steps? rest.length rest
  pure ⟨root, steps⟩

/-! ### Putting -/

/-- The items with room for a position, and the position counted from the beginning. -/
def makeRoom (index : Int) (items : List Json) : List Json × Nat :=
  if 0 ≤ index then
    (items ++ List.replicate (index.toNat + 1 - items.length) .null, index.toNat)
  else if index.natAbs ≤ items.length then (items, items.length - index.natAbs)
  else (List.replicate (index.natAbs - items.length) .null ++ items, 0)

/-- A value with another put at a place inside it. -/
def putSteps (value : Json) : List Step → Json → Json
  | [], old => Json.merge old value
  | .name name :: rest, old =>
    let members := old.members?.getD []
    .obj (Dict.put name (putSteps value rest ((members.lookup name).getD .null)) members)
  | .position index :: rest, old =>
    let (items, i) := makeRoom index (old.items?.getD [])
    .arr (items.set i (putSteps value rest (items.getD i .null)))

/-- Settings with a value put at a place. -/
def put (path : Path) (value settings : Json) : Json :=
  putSteps value (.name path.root :: path.steps) settings

/-- Settings with a value put at the place that a text writes; a text that writes none is the name
of a part. -/
def putAt (text : String) (value settings : Json) : Json :=
  ((ofText? text).getD ⟨text, []⟩).put value settings

end Path

end NodeStack.Settings
