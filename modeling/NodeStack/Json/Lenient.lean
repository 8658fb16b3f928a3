import NodeStack.Json.Basic

/-!
# `NodeStack.Json.Lenient`: reading the members of a value with defaults

- `Json.textAt`, `naturalAt`, `integerAt`, `flagAt`: a member of a type, or its plainest value.
- `Json.itemsAt`, `textsAt`, `membersAt`: what a member holds, nothing if it is of another type.
- `Json.partAt`, `Json.given?`: a member that is an object, and one that is not `null`.
-/

set_option autoImplicit false

namespace NodeStack.Json

/-- The text of a member; empty if there is none. -/
def textAt (v : Json) (name : String) : String := (v.get? name).text?.getD ""

/-- The value of a member that is a natural number; zero if it is none. -/
def naturalAt (v : Json) (name : String) : Nat := (v.get? name).natural?.getD 0

/-- The value of a member that is a whole number; zero if it is none. -/
def integerAt (v : Json) (name : String) : Int := (v.get? name).integer?.getD 0

/-- The truth value of a member; false if it has none. -/
def flagAt (v : Json) (name : String) : Bool := (v.get? name).bool?.getD false

/-- The items of a member. -/
def itemsAt (v : Json) (name : String) : List Json := (v.get? name).items?.getD []

/-- The texts among the items of a member. -/
def textsAt (v : Json) (name : String) : List String := (v.itemsAt name).filterMap text?

/-- The members of a member. -/
def membersAt (v : Json) (name : String) : List (String × Json) := (v.get? name).members?.getD []

/-- A member that is an object. -/
def partAt (v : Json) (name : String) : Option Json :=
  if (v.get? name).isObject then some (v.get? name) else none

/-- A member that is there and not `null`. -/
def given? (v : Json) (name : String) : Option Json :=
  match v.get? name with
  | .null => none
  | found => some found

end NodeStack.Json
