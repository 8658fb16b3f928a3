import NodeStack.Json.Literal

/-!
# `NodeStack.Json.Tree`: the shape of a JSON text

- `Tree`: a text that keeps the grammar, before its texts, numbers and depth are judged. Members
  stand as written, repeated names included.
- `Tree.ofChars?`: the tree of a whole text.
- `Tree.json?`: the value of a tree, for text without lone surrogates, numbers within range and a
  nesting of at most 127 levels.
- `Json.ofChars?`, `Json.parse?`: the value of a whole text.
- `Json.unreadable`: what is said of a text without a value.

A reader that skips a part of a text, such as a member it does not know, asks of that part only
that it has a tree.
-/

set_option autoImplicit false

namespace NodeStack.Json

/-- The shape of a JSON text. -/
inductive Tree where
  | null
  | bool (value : Bool)
  | num (literal : Literal)
  /-- A text; nothing if its escapes name a lone surrogate. -/
  | str (text : Option String)
  | arr (items : List Tree)
  | obj (members : List (Option String × Tree))
  deriving Repr, Inhabited

namespace Tree

/-- The characters that may stand between tokens. -/
def isGap (c : Char) : Bool :=
  c = ' ' || c = '\n' || c = '\t' || c = '\r'

/-- The text after the blanks at its beginning. -/
def skip (cs : List Char) : List Char :=
  cs.dropWhile isGap

/-! ### Texts -/

/-- A piece of a text: a character, or a 16-bit unit that needs a partner. -/
inductive Piece where
  | char (c : Char)
  | surrogate (unit : Nat)
  deriving Repr, DecidableEq

/-- The value of a hexadecimal digit. -/
def hex? (c : Char) : Option Nat :=
  if '0' ≤ c && c ≤ '9' then some (c.toNat - '0'.toNat)
  else if 'a' ≤ c && c ≤ 'f' then some (c.toNat - 'a'.toNat + 10)
  else if 'A' ≤ c && c ≤ 'F' then some (c.toNat - 'A'.toNat + 10)
  else none

/-- The unit that four hexadecimal digits name. -/
def unit? (a b c d : Char) : Option Nat := do
  let a ← hex? a
  let b ← hex? b
  let c ← hex? c
  let d ← hex? d
  pure (((a * 16 + b) * 16 + c) * 16 + d)

/-- The piece a 16-bit unit stands for. -/
def pieceOfUnit (u : Nat) : Piece :=
  if 0xD800 ≤ u && u < 0xE000 then .surrogate u else .char (Char.ofNat u)

/-- The character of a one-letter escape. -/
def escape? : Char → Option Char
  | '"' => some '"'
  | '\\' => some '\\'
  | '/' => some '/'
  | 'b' => some (Char.ofNat 8)
  | 'f' => some (Char.ofNat 12)
  | 'n' => some '\n'
  | 'r' => some '\r'
  | 't' => some '\t'
  | _ => none

/-- The pieces of a text up to its closing quote, and what follows the quote. Control characters
may not stand for themselves. -/
def pieces? : List Char → Option (List Piece × List Char)
  | [] => none
  | '"' :: rest => some ([], rest)
  | '\\' :: 'u' :: a :: b :: c :: d :: rest => do
    let u ← unit? a b c d
    let (ps, rest) ← pieces? rest
    pure (pieceOfUnit u :: ps, rest)
  | '\\' :: e :: rest => do
    let c ← escape? e
    let (ps, rest) ← pieces? rest
    pure (.char c :: ps, rest)
  | c :: rest =>
    if c = '\\' || c.toNat < 0x20 then none
    else do
      let (ps, rest) ← pieces? rest
      pure (.char c :: ps, rest)

/-- A quotation mark ends a text. -/
theorem pieces?_close (rest : List Char) : pieces? ('"' :: rest) = some ([], rest) := by
  rw [pieces?]

/-- The characters of the pieces: a high surrogate joins the low one right after it, and no
surrogate may be left over. -/
def join? : List Piece → Option (List Char)
  | [] => some []
  | .char c :: ps => (join? ps).map (c :: ·)
  | .surrogate high :: .surrogate low :: ps =>
    if high < 0xDC00 && 0xDC00 ≤ low then
      (join? ps).map (Char.ofNat (0x10000 + (high - 0xD800) * 0x400 + (low - 0xDC00)) :: ·)
    else none
  | .surrogate _ :: _ => none

/-- A text after its opening quote, and what follows its closing quote. -/
def text? (cs : List Char) : Option (Option String × List Char) := do
  let (ps, rest) ← pieces? cs
  pure ((join? ps).map String.ofList, rest)

/-! ### Values -/

/-- What follows a word at the beginning of a text. -/
def word? : (word cs : List Char) → Option (List Char)
  | [], cs => some cs
  | w :: word, c :: cs => if w = c then word? word cs else none
  | _ :: _, [] => none

mutual

/-- A value at the beginning of a text, blanks before it skipped, and what follows it. -/
def value? : (fuel : Nat) → List Char → Option (Tree × List Char)
  | 0, _ => none
  | fuel + 1, cs =>
    match skip cs with
    | [] => none
    | '"' :: rest => (text? rest).map fun (s, rest) => (.str s, rest)
    | '[' :: rest =>
      match skip rest with
      | ']' :: rest => some (.arr [], rest)
      | rest => (items? fuel rest).map fun (ts, rest) => (.arr ts, rest)
    | '\x7b' :: rest =>
      match skip rest with
      | '\x7d' :: rest => some (.obj [], rest)
      | rest => (members? fuel rest).map fun (ms, rest) => (.obj ms, rest)
    | c :: rest =>
      if c = 'n' then (word? "ull".toList rest).map fun rest => (.null, rest)
      else if c = 't' then (word? "rue".toList rest).map fun rest => (.bool true, rest)
      else if c = 'f' then (word? "alse".toList rest).map fun rest => (.bool false, rest)
      else (Literal.read? (c :: rest)).map fun (l, rest) => (.num l, rest)

/-- The items of an array from the next one on, and what follows its bracket. -/
def items? : (fuel : Nat) → List Char → Option (List Tree × List Char)
  | 0, _ => none
  | fuel + 1, cs => do
    let (t, rest) ← value? fuel cs
    match skip rest with
    | ',' :: rest =>
      let (ts, rest) ← items? fuel rest
      pure (t :: ts, rest)
    | ']' :: rest => pure ([t], rest)
    | _ => none

/-- The members of an object from the next one on, and what follows its brace. -/
def members? : (fuel : Nat) → List Char → Option (List (Option String × Tree) × List Char)
  | 0, _ => none
  | fuel + 1, cs =>
    match skip cs with
    | '"' :: rest => do
      let (name, rest) ← text? rest
      match skip rest with
      | ':' :: rest =>
        let (t, rest) ← value? fuel rest
        match skip rest with
        | ',' :: rest =>
          let (ms, rest) ← members? fuel rest
          pure ((name, t) :: ms, rest)
        | '\x7d' :: rest => pure ([(name, t)], rest)
        | _ => none
      | _ => none
    | _ => none

end

/-! Without fuel nothing is read. -/

theorem value?_zero (cs : List Char) : value? 0 cs = none := by
  rw [value?]

theorem items?_zero (cs : List Char) : items? 0 cs = none := by
  rw [items?]

theorem members?_zero (cs : List Char) : members? 0 cs = none := by
  rw [members?]

/-- The tree of a whole text: nothing but blanks may follow the value. -/
def ofChars? (cs : List Char) : Option Tree :=
  match value? (2 * cs.length + 2) cs with
  | some (t, rest) => if (skip rest).isEmpty then some t else none
  | none => none

/-! ### The value of a tree -/

mutual

/-- The value of a tree nested at most `limit - 1` levels deep. -/
def jsonWithin? : (limit : Nat) → Tree → Option Json
  | _, .null => some .null
  | _, .bool b => some (.bool b)
  | _, .num l => l.number?.map .num
  | _, .str s => s.map .str
  | limit, .arr ts =>
    match limit with
    | limit + 2 => (itemsWithin? (limit + 1) ts).map .arr
    | _ => none
  | limit, .obj ms =>
    match limit with
    | limit + 2 => (membersWithin? (limit + 1) ms).map Json.ofMembers
    | _ => none

/-- The values of the trees. -/
def itemsWithin? : (limit : Nat) → List Tree → Option (List Json)
  | _, [] => some []
  | limit, t :: ts => do
    let v ← jsonWithin? limit t
    let vs ← itemsWithin? limit ts
    pure (v :: vs)

/-- The values of the members. -/
def membersWithin? : (limit : Nat) → List (Option String × Tree) → Option (List (String × Json))
  | _, [] => some []
  | limit, (name, t) :: ms => do
    let name ← name
    let v ← jsonWithin? limit t
    let vs ← membersWithin? limit ms
    pure ((name, v) :: vs)

end

/-- The levels of nesting a text may not reach. -/
def nestingLimit : Nat := 128

/-- The value of a tree. -/
def json? (t : Tree) : Option Json :=
  jsonWithin? nestingLimit t

end Tree

/-- The value of a whole text. -/
def ofChars? (cs : List Char) : Option Json :=
  (Tree.ofChars? cs).bind Tree.json?

/-- The value of a whole text. -/
def parse? (s : String) : Option Json :=
  ofChars? s.toList

/-- What is said of a text without a value, whatever is wrong with it. -/
def unreadable : String := "<json error>"

end NodeStack.Json
