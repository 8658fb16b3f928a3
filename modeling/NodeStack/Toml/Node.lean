import NodeStack.Dict
import NodeStack.Json.Basic

/-!
# `NodeStack.Toml.Node`: the tables of a TOML document while it is read

- `Node`: a value, a table, or a list of tables.
- `within?`: goes down along keys, and makes the tables that are missing.
- `openTable?`, `openItem?`: a header of a table, and of the next table of a list.
- `put?`: the value of a key.
- `Node.json`: all of it as a JSON value.

No key is given twice. A table with a header has one, and keys with points only add to tables that
such keys have made.
-/

set_option autoImplicit false

namespace NodeStack.Toml

/-- How a table came about. -/
inductive Origin where
  /-- A header or a key led through it. -/
  | passed
  /-- A key with points made it. -/
  | dotted
  /-- It has a header, or is the document itself. -/
  | header
  deriving Repr, DecidableEq

/-- A part of a document. -/
inductive Node where
  | value (value : Json)
  | table (origin : Origin) (entries : List (String × Node))
  /-- A list of tables, the last of which is still open. -/
  | tables (before : List (List (String × Node))) (last : List (String × Node))

/-- The entries of a table. -/
abbrev Entries := List (String × Node)

/-- Goes down along keys, and changes the entries of the table at the end. `byKey` says that the
keys stand in front of a value. -/
def within? (byKey : Bool) : (path : List String) → (f : Origin → Entries → Option Entries) →
    Origin → Entries → Option Entries
  | [], f, origin, entries => f origin entries
  | key :: path, f, _, entries =>
    match Dict.get? key entries with
    | none =>
      let origin := if byKey then Origin.dotted else .passed
      (within? byKey path f origin []).map fun sub => Dict.put key (.table origin sub) entries
    | some (.value _) => none
    | some (.table origin sub) =>
      if byKey && origin = .header then none
      else
        (within? byKey path f origin sub).map fun sub => Dict.put key (.table origin sub) entries
    | some (.tables before last) =>
      (within? byKey path f .header last).map fun last =>
        Dict.put key (.tables before last) entries

/-- The header of a table. -/
def openTable? (parents : List String) (key : String) (entries : Entries) : Option Entries :=
  within? false parents (fun _ entries =>
    match Dict.get? key entries with
    | none => some (Dict.put key (.table .header []) entries)
    | some (.table .passed sub) => some (Dict.put key (.table .header sub) entries)
    | _ => none) .header entries

/-- The header of the next table of a list. -/
def openItem? (parents : List String) (key : String) (entries : Entries) : Option Entries :=
  within? false parents (fun _ entries =>
    match Dict.get? key entries with
    | none => some (Dict.put key (.tables [] []) entries)
    | some (.tables before last) => some (Dict.put key (.tables (before ++ [last]) []) entries)
    | _ => none) .header entries

/-- The value of a key in a table. -/
def putKey? (path : List String) (key : String) (value : Json) (origin : Origin)
    (entries : Entries) : Option Entries :=
  within? true path (fun origin entries =>
    if !path.isEmpty && origin != .dotted then none
    else
      match Dict.get? key entries with
      | none => some (Dict.put key (.value value) entries)
      | some _ => none) origin entries

/-- The value of a key in the table with a header. -/
def put? (header path : List String) (key : String) (value : Json) (entries : Entries) :
    Option Entries :=
  within? false header (fun _ entries => putKey? path key value .header entries) .header entries

mutual

/-- A part of a document as a JSON value. -/
def Node.json : Node → Json
  | .value v => v
  | .table _ entries => .obj (entriesJson entries)
  | .tables before last => .arr (tablesJson before ++ [.obj (entriesJson last)])

/-- The entries of a table as members. -/
def entriesJson : Entries → List (String × Json)
  | [] => []
  | (key, node) :: rest => (key, node.json) :: entriesJson rest

/-- Tables as JSON values. -/
def tablesJson : List Entries → List Json
  | [] => []
  | entries :: rest => .obj (entriesJson entries) :: tablesJson rest

end

end NodeStack.Toml
