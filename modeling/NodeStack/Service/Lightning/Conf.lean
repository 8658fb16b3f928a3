import NodeStack.Text.Blank
import NodeStack.Text.Case
import NodeStack.Text.Split

/-!
# `NodeStack.Service.Lightning.Conf`: the configuration file of a lightning node

- `Conf.Line`: what one line says: a section, an entry, or nothing.
- `Conf.entries`: the entries of a text, each with the section it stands in.
- `Conf.values`: the values of a key, in the order of the file.

The section of a key is named by what stands before its first dot.
-/

set_option autoImplicit false

namespace NodeStack.Service.Lightning.Conf

/-- A key with its value, in a section. -/
structure Entry where
  inSection : String
  key : String
  value : String
  deriving Repr, DecidableEq

/-- What one line says. -/
inductive Line where
  /-- The header of a section. -/
  | header (name : String)
  /-- A key with its value. -/
  | entry (key value : String)
  /-- Nothing: a blank line, a comment, or a line without an equals sign. -/
  | nothing
  deriving Repr, DecidableEq

/-- What stands between brackets, if the text begins and ends with them. -/
def inBrackets? : List Char → Option (List Char)
  | '[' :: cs =>
    match cs.reverse with
    | ']' :: inner => some inner.reverse
    | _ => none
  | _ => none

/-- Whether the trimmed line is a comment. -/
def isComment : List Char → Bool
  | c :: _ => c = ';' || c = '#'
  | [] => false

/-- The name of a section: trimmed, in lower case. -/
def sectionName (cs : List Char) : String :=
  Text.Case.lower (String.ofList (Text.trimChars cs))

/-- What a line says. -/
def readLine (raw : List Char) : Line :=
  let line := Text.trimChars raw
  if line.isEmpty || isComment line then .nothing
  else
    match inBrackets? line with
    | some name => .header (sectionName name)
    | none =>
      match Text.cut? ['='] line with
      | some (key, value) =>
        .entry (String.ofList (Text.trimChars key)) (String.ofList (Text.trimChars value))
      | none => .nothing

/-- The entries of the lines that follow in a section. -/
def entriesFrom : (sectionName : String) → List Line → List Entry
  | _, [] => []
  | _, .header name :: rest => entriesFrom name rest
  | name, .entry key value :: rest => ⟨name, key, value⟩ :: entriesFrom name rest
  | name, .nothing :: rest => entriesFrom name rest

/-- The entries of a text. It begins in a section without a name. -/
def entries (content : String) : List Entry :=
  entriesFrom "" ((Text.lines content.toList).map readLine)

/-- The section a key belongs to. -/
def sectionOf (key : String) : String :=
  match Text.cut? ['.'] key.toList with
  | some (before, _) => Text.Case.lower (String.ofList before)
  | none => ""

/-- The values of a key, in the order of the entries. -/
def values (es : List Entry) (key : String) : List String :=
  (es.filter fun e => e.inSection == sectionOf key && e.key == key).map (·.value)

end NodeStack.Service.Lightning.Conf
