import NodeStack.Json.Tree

/-!
# `NodeStack.Json.Record`: records with named fields

- `Tree.fields?`, `fields?`: the fields of a record, from an object or from an array.
- `required`, `withDefault`, `optional`: how a field is read, and what an absent one stands for.

A record is written as an object, its members in any order and unknown ones skipped, or as an array
of its first fields in order. A known member given twice makes it unreadable.
-/

set_option autoImplicit false

namespace NodeStack.Json

/-- Puts a value into the place of its name; nothing if the place is taken. -/
def fillField {α : Type} (name : String) (value : α) :
    List (String × Option α) → Option (List (String × Option α))
  | [] => some []
  | (n, held) :: rest =>
    if n = name then
      match held with
      | none => some ((n, some value) :: rest)
      | some _ => none
    else (fillField name value rest).map ((n, held) :: ·)

/-- Sorts members into fields; nothing if a field comes twice. -/
def fillFields {α : Type} :
    List (String × Option α) → List (String × α) → Option (List (String × Option α))
  | fields, [] => some fields
  | fields, (name, value) :: rest =>
    (fillField name value fields).bind fun fields => fillFields fields rest

/-- The fields of a record that is written as an object. -/
def fieldsOfMembers? {α : Type} (names : List String) (members : List (String × α)) :
    Option (List (Option α)) :=
  (fillFields (names.map fun n => (n, none)) members).map fun fs => fs.map (·.2)

/-- The fields of a record that is written as an array. -/
def fieldsOfItems? {α : Type} (names : List String) (items : List α) : Option (List (Option α)) :=
  if items.length ≤ names.length then
    some (items.map some ++ List.replicate (names.length - items.length) none)
  else none

/-- The members, if every name is a text. -/
def namedMembers? {α : Type} : List (Option String × α) → Option (List (String × α))
  | [] => some []
  | (none, _) :: _ => none
  | (some name, value) :: rest => (namedMembers? rest).map ((name, value) :: ·)

/-- The fields of a record, by its tree. -/
def Tree.fields? (names : List String) : Tree → Option (List (Option Tree))
  | .obj members => (namedMembers? members).bind (fieldsOfMembers? names)
  | .arr items => fieldsOfItems? names items
  | _ => none

/-- The fields of a record, by its value. -/
def fields? (names : List String) : Json → Option (List (Option Json))
  | .obj members => fieldsOfMembers? names members
  | .arr items => fieldsOfItems? names items
  | _ => none

/-! ### Reading a field -/

/-- A whole number that is not negative and below a bound. -/
def below? (bound : Nat) (v : Json) : Option Nat :=
  v.natural?.filter (· < bound)

/-- A list of texts. -/
def texts? (v : Json) : Option (List String) :=
  v.items?.bind fun items => items.mapM text?

/-- A field that must be there. -/
def required {α : Type} (read : Json → Option α) (field : Option Json) : Option α :=
  field.bind read

/-- A field that takes a default when it is absent. -/
def withDefault {α : Type} (default : α) (read : Json → Option α) : Option Json → Option α
  | none => some default
  | some v => read v

/-- A field that may be absent or `null`. -/
def optional {α : Type} (read : Json → Option α) : Option Json → Option (Option α)
  | none => some none
  | some .null => some none
  | some v => (read v).map some

end NodeStack.Json
