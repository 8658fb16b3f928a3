import NodeStack.Dict
import NodeStack.Power

/-!
# `NodeStack.Json.Basic`: JSON values

- `Number`: a whole number of 64 bits, or a double.
- `Json`: a value. The members of an object stand in the order of their names, each name once.
- `Json.ofMembers`: the object with some members.
- `Json.get?`, `Json.text?`, `Json.natural?`: reading a value.
-/

set_option autoImplicit false

namespace NodeStack

namespace Json

/-- A number of a JSON text. -/
inductive Number where
  /-- A whole number, at least `-(2 ^ 63)` and below `2 ^ 64`. -/
  | whole (value : Int)
  /-- A finite double, by its bits. -/
  | double (bits : UInt64)
  deriving Repr, DecidableEq

end Json

/-- A JSON value. -/
inductive Json where
  | null
  | bool (value : Bool)
  | num (value : Json.Number)
  | str (text : String)
  | arr (items : List Json)
  | obj (members : List (String × Json))
  deriving Repr, Inhabited

namespace Json

/-- The object with these members; of two with one name the later counts. -/
def ofMembers (members : List (String × Json)) : Json :=
  .obj (Dict.ofPairs members)

/-- A whole number as a value. -/
def ofInt (n : Int) : Json := .num (.whole n)

/-- A natural number as a value. -/
def ofNat (n : Nat) : Json := .num (.whole n)

/-- A list of texts as a value. -/
def ofTexts (texts : List String) : Json := .arr (texts.map .str)

/-- An optional text as a value. -/
def ofText? : Option String → Json
  | none => .null
  | some s => .str s

/-- The member of that name; `null` of a value that has none. -/
def get? (value : Json) (name : String) : Json :=
  match value with
  | .obj members => (members.lookup name).getD .null
  | _ => .null

/-- The text of a text value. -/
def text? : Json → Option String
  | .str s => some s
  | _ => none

/-- The value of a whole number that is not negative. -/
def natural? : Json → Option Nat
  | .num (.whole n) => if 0 ≤ n then some n.toNat else none
  | _ => none

/-- The value of a whole number of 64 signed bits. -/
def integer? : Json → Option Int
  | .num (.whole n) => if n < 2 ^ 63 then some n else none
  | _ => none

/-- Whether the value is an object. -/
def isObject : Json → Bool
  | .obj _ => true
  | _ => false

/-- The members of an object. -/
def members? : Json → Option (List (String × Json))
  | .obj members => some members
  | _ => none

/-- The items of an array. -/
def items? : Json → Option (List Json)
  | .arr items => some items
  | _ => none

/-- The value of a truth value. -/
def bool? : Json → Option Bool
  | .bool b => some b
  | _ => none

end Json

end NodeStack
