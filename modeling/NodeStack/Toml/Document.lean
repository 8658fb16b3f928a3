import NodeStack.Toml.Node
import NodeStack.Toml.Scalar
import NodeStack.Toml.Text

/-!
# `NodeStack.Toml.Document`: TOML documents

- `value?`: a value of any kind.
- `Line`, `line?`: what a line says.
- `ofChars?`: a document as a JSON object.
-/

set_option autoImplicit false

namespace NodeStack.Toml

/-! ### Values -/

/-- What follows a comment, which does not go beyond its line; nothing if a character cannot stand
in it. -/
def afterComment? (cs : List Char) : Option (List Char) :=
  match cs with
  | '#' :: rest =>
    let shown := rest.takeWhile isShown
    let rest := rest.drop shown.length
    if rest.isEmpty || (afterLineEnd? rest).isSome then some rest else none
  | cs => some cs

/-- What follows blanks, line ends and comments. -/
def skipAll? : (fuel : Nat) → List Char → Option (List Char)
  | 0, _ => none
  | fuel + 1, cs =>
    match afterComment? (skipGaps cs) with
    | none => none
    | some rest =>
      match afterLineEnd? rest with
      | some rest => skipAll? fuel rest
      | none => some rest

mutual

/-- A value, and what follows it. -/
def value? : (fuel : Nat) → List Char → Option (Json × List Char)
  | 0, _ => none
  | fuel + 1, cs =>
    match cs with
    | '[' :: rest => (items? fuel rest).map fun (vs, rest) => (.arr vs, rest)
    | '\x7b' :: rest =>
      match skipGaps rest with
      | '\x7d' :: rest => some (.obj [], rest)
      | rest => (members? fuel [] rest).map fun (es, rest) => (.obj (entriesJson es), rest)
    | '"' :: _ | '\'' :: _ => (text? cs).map fun (s, rest) => (.str s, rest)
    | _ => scalar? cs

/-- The items of an array up to its bracket. -/
def items? : (fuel : Nat) → List Char → Option (List Json × List Char)
  | 0, _ => none
  | fuel + 1, cs => do
    match ← skipAll? (cs.length + 1) cs with
    | ']' :: rest => pure ([], rest)
    | cs =>
      let (v, rest) ← value? fuel cs
      match ← skipAll? (rest.length + 1) rest with
      | ',' :: rest =>
        let (vs, rest) ← items? fuel rest
        pure (v :: vs, rest)
      | ']' :: rest => pure ([v], rest)
      | _ => none

/-- The members of a table within a line up to its brace, after those that have been read. -/
def members? : (fuel : Nat) → Entries → List Char → Option (Entries × List Char)
  | 0, _, _ => none
  | fuel + 1, entries, cs => do
    let (path, rest) ← path? (cs.length + 1) cs
    let rest ← after? '=' rest
    let (v, rest) ← value? fuel (skipGaps rest)
    let key ← path.getLast?
    let entries ← putKey? path.dropLast key v .header entries
    match skipGaps rest with
    | ',' :: rest => members? fuel entries rest
    | '\x7d' :: rest => pure (entries, rest)
    | _ => none

end

/-! ### Lines -/

/-- What a line says. -/
inductive Line where
  | empty
  /-- The header of a table. -/
  | table (path : List String)
  /-- The header of the next table of a list. -/
  | item (path : List String)
  /-- The value of a key. -/
  | pair (path : List String) (value : Json)

/-- What a line says, and what follows. -/
def line? (cs : List Char) : Option (Line × List Char) :=
  match skipGaps cs with
  | [] => some (.empty, [])
  | '[' :: '[' :: rest => do
    let (path, rest) ← path? (rest.length + 1) rest
    let rest ← after? ']' rest
    let rest ← after? ']' rest
    pure (.item path, rest)
  | '[' :: rest => do
    let (path, rest) ← path? (rest.length + 1) rest
    let rest ← after? ']' rest
    pure (.table path, rest)
  | c :: rest =>
    if c = '#' || c = '\n' || c = '\r' then some (.empty, c :: rest)
    else do
      let (path, rest) ← path? (rest.length + 2) (c :: rest)
      let rest ← after? '=' rest
      let (v, rest) ← value? (2 * rest.length + 2) (skipGaps rest)
      pure (.pair path v, rest)

/-- What follows the end of a line; a comment may stand in front of it. -/
def endOfLine? (cs : List Char) : Option (List Char) := do
  let rest ← afterComment? (skipGaps cs)
  if rest.isEmpty then pure [] else afterLineEnd? rest

/-! ### Documents -/

/-- A document while it is read: the header of the table that is open, and all the entries. -/
structure Reading where
  header : List String
  entries : Entries

/-- Takes in a line. -/
def Reading.take? (r : Reading) : Line → Option Reading
  | .empty => some r
  | .table path => do
    let key ← path.getLast?
    let entries ← openTable? path.dropLast key r.entries
    pure ⟨path, entries⟩
  | .item path => do
    let key ← path.getLast?
    let entries ← openItem? path.dropLast key r.entries
    pure ⟨path, entries⟩
  | .pair path v => do
    let key ← path.getLast?
    let entries ← put? r.header path.dropLast key v r.entries
    pure { r with entries := entries }

/-- Takes in lines up to the end. -/
def readLines? : (fuel : Nat) → Reading → List Char → Option Reading
  | _, r, [] => some r
  | 0, _, _ => none
  | fuel + 1, r, cs => do
    let (l, rest) ← line? cs
    let rest ← endOfLine? rest
    let r ← r.take? l
    readLines? fuel r rest

/-- A document as a JSON object. -/
def ofChars? (cs : List Char) : Option Json :=
  (readLines? (cs.length + 1) ⟨[], []⟩ cs).map fun r => .obj (entriesJson r.entries)

end NodeStack.Toml
