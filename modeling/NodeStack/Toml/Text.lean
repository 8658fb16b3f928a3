import NodeStack.Text.Digits
import NodeStack.Text.Split

/-!
# `NodeStack.Toml.Text`: texts and keys of a TOML document

- `text?`: a text in single or double quotes, or in three of either kind, at the beginning of what
  is left of a document.
- `key?`, `path?`: a key, and keys that are joined by points.

Each reader gives back what it has read and what follows.
-/

set_option autoImplicit false

namespace NodeStack.Toml

/-- Whether a character is a blank inside a line. -/
def isGap (c : Char) : Bool := c = ' ' || c = '\t'

/-- What follows the blanks. -/
def skipGaps (cs : List Char) : List Char := cs.dropWhile isGap

/-- Whether a character can stand for itself in a text or in a comment. -/
def isShown (c : Char) : Bool := c = '\t' || (0x20 ≤ c.toNat && c.toNat != 0x7F)

/-- What follows a line end. -/
def afterLineEnd? : List Char → Option (List Char)
  | '\n' :: rest => some rest
  | '\r' :: '\n' :: rest => some rest
  | _ => none

/-! ### Escapes -/

/-- The character of a one-letter escape. -/
def letterEscape? (c : Char) : Option Char :=
  if c = 'b' then some (Char.ofNat 8)
  else if c = 't' then some '\t'
  else if c = 'n' then some '\n'
  else if c = 'f' then some (Char.ofNat 12)
  else if c = 'r' then some '\r'
  else if c = '"' || c = '\\' then some c
  else none

/-- The character of a number, if there is one. -/
def charOf? (n : Nat) : Option Char := if n.isValidChar then some (Char.ofNat n) else none

/-- The character of so many hexadecimal digits, and what follows them. -/
def numberEscape? (width : Nat) (cs : List Char) : Option (Char × List Char) := do
  let digits := cs.take width
  if digits.length < width then none
  let n ← Text.digitsValue? 16 digits
  let c ← charOf? n
  pure (c, cs.drop width)

/-- The character of an escape, after its backslash, and what follows. -/
def escape? : List Char → Option (Char × List Char)
  | 'u' :: rest => numberEscape? 4 rest
  | 'U' :: rest => numberEscape? 8 rest
  | c :: rest => (letterEscape? c).map fun c => (c, rest)
  | [] => none

/-! ### Texts -/

/-- The rest of a text in double quotes. -/
def doubleQuoted? : (fuel : Nat) → List Char → Option (List Char × List Char)
  | 0, _ | _, [] => none
  | _, '"' :: rest => some ([], rest)
  | fuel + 1, '\\' :: rest => do
    let (c, rest) ← escape? rest
    let (cs, rest) ← doubleQuoted? fuel rest
    pure (c :: cs, rest)
  | fuel + 1, c :: rest =>
    if isShown c then (doubleQuoted? fuel rest).map fun (cs, rest) => (c :: cs, rest) else none

/-- The rest of a text in single quotes. -/
def singleQuoted? : List Char → Option (List Char × List Char)
  | [] => none
  | '\'' :: rest => some ([], rest)
  | c :: rest =>
    if isShown c then (singleQuoted? rest).map fun (cs, rest) => (c :: cs, rest) else none

/-- How many quotes end a text in three quotes: three, and up to two that belong to it. -/
def closing? (quote : Char) (cs : List Char) : Option (List Char × List Char) :=
  let quotes := cs.takeWhile (· = quote)
  let n := min quotes.length 5
  if n < 3 then none else some (List.replicate (n - 3) quote, cs.drop n)

/-- What follows blanks and line ends. -/
def skipLines : (fuel : Nat) → List Char → List Char
  | 0, cs => cs
  | fuel + 1, cs =>
    match afterLineEnd? (skipGaps cs) with
    | some rest => skipLines fuel rest
    | none => skipGaps cs

/-- The rest of a text in three double quotes. A backslash at the end of a line leaves out all up to
the next character that is shown. -/
def tripleDouble? : (fuel : Nat) → List Char → Option (List Char × List Char)
  | 0, _ => none
  | fuel + 1, cs =>
    match closing? '"' cs with
    | some (quotes, rest) => some (quotes, rest)
    | none =>
      match cs with
      | [] => none
      | '\\' :: rest =>
        match afterLineEnd? (skipGaps rest) with
        | some rest => tripleDouble? fuel (skipLines fuel rest)
        | none => do
          let (c, rest) ← escape? rest
          let (cs, rest) ← tripleDouble? fuel rest
          pure (c :: cs, rest)
      | c :: rest =>
        match afterLineEnd? (c :: rest) with
        | some rest => (tripleDouble? fuel rest).map fun (cs, rest) => ('\n' :: cs, rest)
        | none =>
          if isShown c then (tripleDouble? fuel rest).map fun (cs, rest) => (c :: cs, rest)
          else none

/-- The rest of a text in three single quotes. -/
def tripleSingle? : (fuel : Nat) → List Char → Option (List Char × List Char)
  | 0, _ => none
  | fuel + 1, cs =>
    match closing? '\'' cs with
    | some (quotes, rest) => some (quotes, rest)
    | none =>
      match cs with
      | [] => none
      | c :: rest =>
        match afterLineEnd? (c :: rest) with
        | some rest => (tripleSingle? fuel rest).map fun (cs, rest) => ('\n' :: cs, rest)
        | none =>
          if isShown c then (tripleSingle? fuel rest).map fun (cs, rest) => (c :: cs, rest)
          else none

/-- What follows a line end right after the opening quotes, which does not count. -/
def dropFirstEnd (cs : List Char) : List Char := (afterLineEnd? cs).getD cs

/-- A text in one quote on each side. -/
def shortText? : List Char → Option (String × List Char)
  | '"' :: rest =>
    (doubleQuoted? (rest.length + 1) rest).map fun (cs, rest) => (String.ofList cs, rest)
  | '\'' :: rest => (singleQuoted? rest).map fun (cs, rest) => (String.ofList cs, rest)
  | _ => none

/-- A text. -/
def text? : List Char → Option (String × List Char)
  | '"' :: '"' :: '"' :: rest =>
    (tripleDouble? (rest.length + 1) (dropFirstEnd rest)).map fun (cs, rest) =>
      (String.ofList cs, rest)
  | '\'' :: '\'' :: '\'' :: rest =>
    (tripleSingle? (rest.length + 1) (dropFirstEnd rest)).map fun (cs, rest) =>
      (String.ofList cs, rest)
  | cs => shortText? cs

/-! ### Keys -/

/-- Whether a character can stand in a key without quotes. -/
def isBare (c : Char) : Bool := c.isAlphanum || c = '_' || c = '-'

/-- A key. -/
def key? (cs : List Char) : Option (String × List Char) :=
  match cs.takeWhile isBare with
  | [] => shortText? cs
  | bare => some (String.ofList bare, cs.drop bare.length)

/-- Keys that are joined by points, with the blanks around them. -/
def path? : (fuel : Nat) → List Char → Option (List String × List Char)
  | 0, _ => none
  | fuel + 1, cs => do
    let (key, rest) ← key? (skipGaps cs)
    match skipGaps rest with
    | '.' :: rest =>
      let (keys, rest) ← path? fuel rest
      pure (key :: keys, rest)
    | rest => pure ([key], rest)

end NodeStack.Toml
