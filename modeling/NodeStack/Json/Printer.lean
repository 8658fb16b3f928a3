import NodeStack.Json.Basic
import NodeStack.Decimal.Shortest

/-!
# `NodeStack.Json.Printer`: the text of a JSON value

- `write`: the characters of a value, without blanks.
- `Json.render`: its text; `renderRecord`: the text of a record, its members in the order given.

In a text the quote, the backslash and the control characters are escaped and all else stands for
itself. A double has the fewest digits that read back.
-/

set_option autoImplicit false

namespace NodeStack.Json

/-- A digit of a base up to sixteen, letters in lower case. -/
def hexDigit (n : Nat) : Char := Nat.digitChar n

/-- A character inside a quoted text. -/
def escapeChar (c : Char) : List Char :=
  if c = '"' then ['\\', '"']
  else if c = '\\' then ['\\', '\\']
  else if c = '\n' then ['\\', 'n']
  else if c = '\r' then ['\\', 'r']
  else if c = '\t' then ['\\', 't']
  else if c.toNat = 8 then ['\\', 'b']
  else if c.toNat = 12 then ['\\', 'f']
  else if c.toNat < 0x20 then
    ['\\', 'u', '0', '0', hexDigit (c.toNat / 16), hexDigit (c.toNat % 16)]
  else [c]

/-- A text in quotes. -/
def writeText (cs : List Char) : List Char :=
  '"' :: (cs.flatMap escapeChar ++ ['"'])

/-- A number. -/
def writeNumber : Number → List Char
  | .whole n => if n < 0 then '-' :: Nat.toDigits 10 n.natAbs else Nat.toDigits 10 n.natAbs
  | .double bits => Decimal.shortestText bits

mutual

/-- The characters of a value, without blanks. -/
def write : Json → List Char
  | .null => "null".toList
  | .bool true => "true".toList
  | .bool false => "false".toList
  | .num n => writeNumber n
  | .str s => writeText s.toList
  | .arr items => '[' :: (writeItems items ++ [']'])
  | .obj members => '\x7b' :: (writeMembers members ++ ['\x7d'])

/-- The items of an array, commas between them. -/
def writeItems : List Json → List Char
  | [] => []
  | [v] => write v
  | v :: w :: rest => write v ++ ',' :: writeItems (w :: rest)

/-- The members of an object, commas between them. -/
def writeMembers : List (String × Json) → List Char
  | [] => []
  | [(name, v)] => writeText name.toList ++ ':' :: write v
  | (name, v) :: m :: rest =>
    writeText name.toList ++ ':' :: (write v ++ ',' :: writeMembers (m :: rest))

end

/-- The text of a value. -/
def render (v : Json) : String :=
  String.ofList (write v)

/-- The text of a record: its members in the order given. -/
def renderRecord (members : List (String × Json)) : String :=
  String.ofList ('\x7b' :: (writeMembers members ++ ['\x7d']))

end NodeStack.Json
