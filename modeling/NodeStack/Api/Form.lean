import NodeStack.Json.Tree
import NodeStack.Text.Split

/-!
# `NodeStack.Api.Form`: the records that clients send

- `Field`: a member of a record, with the values it takes.
- `Misfit`: why a text is not such a record: it is no JSON, or JSON of another shape.
- `read`: the values of the fields of a record.

A text is read from left to right and the first thing wrong with it counts: a value of the wrong
type is noticed before anything behind it is looked at, and an array or object in the place of a
plain value as soon as it begins. A record may also be written as an array of its fields. Unknown
members are passed over.
-/

set_option autoImplicit false

namespace NodeStack.Api.Form

/-- The values a field takes. -/
inductive Kind where
  | text
  /-- Whole numbers that are not negative and below a bound. -/
  | below (bound : Nat)
  /-- Whole numbers of 64 signed bits. -/
  | integer
  /-- None. -/
  | nothing
  deriving Repr, DecidableEq

/-- A member of a record. -/
structure Field where
  name : String
  kind : Kind
  /-- The value when the member is absent, if it may be. -/
  default : Option Json

/-- Why a text is not a record. -/
inductive Misfit where
  /-- It is no JSON. -/
  | unreadable
  /-- It has another shape. -/
  | shape
  deriving Repr, DecidableEq

/-- Whether a field takes a value. -/
def Kind.takes : Kind → Json → Bool
  | .text, .str _ => true
  | .below bound, v =>
    match v.natural? with
    | some n => n < bound
    | none => false
  | .integer, v => v.integer?.isSome
  | _, _ => false

/-- A plain value and what follows it, blanks before it skipped. -/
def plain? (cs : List Char) : Option (Json × List Char) :=
  match Json.Tree.value? 1 cs with
  | some (tree, rest) => tree.json?.map fun v => (v, rest)
  | none => none

/-- The value of a field, and what follows it. -/
def readValue (kind : Kind) (cs : List Char) : Except Misfit (Json × List Char) :=
  match Json.Tree.skip cs with
  | '[' :: _ | '\x7b' :: _ => .error .shape
  | cs =>
    match plain? cs with
    | none => .error .unreadable
    | some (v, rest) => if kind.takes v then .ok (v, rest) else .error .shape

/-- Fields with the values found so far. -/
abbrev Found := List (Field × Option Json)

/-- The values of the fields, defaults for those not found. -/
def close : Found → Except Misfit (List Json)
  | [] => .ok []
  | (field, value) :: rest =>
    match (value <|> field.default), close rest with
    | some v, .ok vs => .ok (v :: vs)
    | some _, .error misfit => .error misfit
    | none, _ => .error .shape

/-- What is known of the field of a name, if there is one. -/
def field? (name : String) (found : Found) : Option (Field × Option Json) :=
  found.find? fun (field, _) => field.name == name

/-- Gives the field of a name a value. -/
def fill (name : String) (value : Json) (found : Found) : Found :=
  found.map fun (field, old) => if field.name == name then (field, some value) else (field, old)

/-- The value of a member, taken into account, and what follows it. -/
def readMember (name : String) (cs : List Char) (found : Found) :
    Except Misfit (Found × List Char) :=
  match field? name found with
  | some (field, none) => (readValue field.kind cs).map fun (v, rest) => (fill name v found, rest)
  | some (_, some _) => .error .shape
  | none =>
    match Json.Tree.value? (2 * cs.length + 2) cs with
    | some (_, rest) => .ok (found, rest)
    | none => .error .unreadable

/-- A name and the colon behind it. -/
def readName (cs : List Char) : Except Misfit (String × List Char) :=
  match Json.Tree.skip cs with
  | '"' :: rest =>
    match Json.Tree.text? rest with
    | some (some name, rest) =>
      match Json.Tree.skip rest with
      | ':' :: rest => .ok (name, rest)
      | _ => .error .unreadable
    | _ => .error .unreadable
  | _ => .error .unreadable

/-- The members of a record from the next one on, at most `fuel`, and what follows the brace. -/
def readMembers : (fuel : Nat) → List Char → Found → Except Misfit (List Json × List Char)
  | 0, _, _ => .error .unreadable
  | fuel + 1, cs, found =>
    match readName cs with
    | .error misfit => .error misfit
    | .ok (name, rest) =>
      match readMember name rest found with
      | .error misfit => .error misfit
      | .ok (found, rest) =>
        match Json.Tree.skip rest with
        | ',' :: rest => readMembers fuel rest found
        | '\x7d' :: rest => (close found).map fun vs => (vs, rest)
        | _ => .error .unreadable

/-- What follows the comma in front of an item; there is none in front of the first. -/
def toItem? (first : Bool) (cs : List Char) : Option (List Char) :=
  if first then some cs else Text.after? [','] cs

/-- The fields of a record that is written as an array, from the next one on, and what follows the
bracket. -/
def readItems : (first : Bool) → List Field → List Char → Except Misfit (List Json × List Char)
  | _, [], cs =>
    match Json.Tree.skip cs with
    | ']' :: rest => .ok ([], rest)
    | _ => .error .unreadable
  | first, field :: fields, cs =>
    match Json.Tree.skip cs with
    | ']' :: rest => (close ((field :: fields).map fun f => (f, none))).map fun vs => (vs, rest)
    | other =>
      match (toItem? first other).map Json.Tree.skip with
      | none | some (']' :: _) => .error .unreadable
      | some cs =>
        match readValue field.kind cs with
        | .error misfit => .error misfit
        | .ok (v, rest) => (readItems false fields rest).map fun (vs, rest) => (v :: vs, rest)

/-- A record, and what follows it. -/
def readRecord (fields : List Field) (cs : List Char) : Except Misfit (List Json × List Char) :=
  match Json.Tree.skip cs with
  | '\x7b' :: rest =>
    match Json.Tree.skip rest with
    | '\x7d' :: rest => (close (fields.map fun f => (f, none))).map fun vs => (vs, rest)
    | rest => readMembers (rest.length + 1) rest (fields.map fun f => (f, none))
  | '[' :: rest => readItems true fields rest
  | cs => (readValue .nothing cs).map fun (_, rest) => ([], rest)

/-- The values of the fields of a record: nothing but blanks may follow it. -/
def read (fields : List Field) (text : String) : Except Misfit (List Json) :=
  match readRecord fields text.toList with
  | .error misfit => .error misfit
  | .ok (vs, rest) => if (Json.Tree.skip rest).isEmpty then .ok vs else .error .unreadable

end NodeStack.Api.Form
