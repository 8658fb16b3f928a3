import NodeStack.Text.Digits

/-!
# `NodeStack.Settings.Address`: addresses a server can listen on

- `isSocketAddress`: whether a text is an address with a port: `a.b.c.d:port`, or `[…]:port` with an
  address of eight groups, in which one run of zero groups may be left out, the last two groups may
  be written as `a.b.c.d`, and a zone number may follow.

The readers are given the characters that are left and give back what follows.
-/

set_option autoImplicit false

namespace NodeStack.Settings.Address

/-- The digits of a base at the beginning, at most `limit` of them, and what follows. -/
def digitRun (base : Nat) : (limit : Nat) → List Char → List Char × List Char
  | 0, cs => ([], cs)
  | _ + 1, [] => ([], [])
  | limit + 1, c :: cs =>
    if (Text.digit? base c).isSome then
      let (ds, rest) := digitRun base limit cs
      (c :: ds, rest)
    else ([], c :: cs)

/-- A number of any length, below a bound. -/
def number? (base bound : Nat) (cs : List Char) : Option (List Char) :=
  let (ds, rest) := digitRun base cs.length cs
  match (Text.digitsValue? base ds).filter (· < bound) with
  | some _ => some rest
  | none => none

/-- What follows a given character. -/
def expect? (c : Char) : List Char → Option (List Char)
  | d :: cs => if c = d then some cs else none
  | [] => none

/-- A number below 256 in at most three digits, none of them a leading zero. -/
def octet? (cs : List Char) : Option (List Char) :=
  let (ds, rest) := digitRun 10 3 cs
  match ds, (Text.digitsValue? 10 ds).filter (· < 256) with
  | '0' :: _ :: _, _ => none
  | _, some _ => some rest
  | _, none => none

/-- Four octets with points between them. -/
def quad? (cs : List Char) : Option (List Char) := do
  let cs ← octet? cs
  let cs ← octet? (← expect? '.' cs)
  let cs ← octet? (← expect? '.' cs)
  octet? (← expect? '.' cs)

/-- A group of at most four hexadecimal digits. -/
def group? (cs : List Char) : Option (List Char) :=
  match digitRun 16 4 cs with
  | ([], _) => none
  | (_, rest) => some rest

/-- What follows the colon that separates a group from the one before it. -/
def afterColon? (first : Bool) (cs : List Char) : Option (List Char) :=
  if first then some cs else expect? ':' cs

/-- As many groups as there are, at most `limit`: their number, whether the last two were written
as four octets, and what follows. -/
def groups : (limit : Nat) → (first : Bool) → List Char → Nat × Bool × List Char
  | 0, _, cs => (0, false, cs)
  | limit + 1, first, cs =>
    let quad := if 1 ≤ limit then (afterColon? first cs).bind quad? else none
    match quad with
    | some rest => (2, true, rest)
    | none =>
      match (afterColon? first cs).bind group? with
      | some rest =>
        let (n, asQuad, rest) := groups limit false rest
        (n + 1, asQuad, rest)
      | none => (0, false, cs)

/-- An address of eight groups. -/
def eightGroups? (cs : List Char) : Option (List Char) :=
  let (n, asQuad, rest) := groups 8 true cs
  if n = 8 then some rest
  else if asQuad then none
  else do
    let rest ← expect? ':' (← expect? ':' rest)
    let (_, _, rest) := groups (8 - (n + 1)) true rest
    pure rest

/-- A zone, if one is given. -/
def zone? : List Char → Option (List Char)
  | '%' :: cs => number? 10 (2 ^ 32) cs
  | cs => some cs

/-- A colon and a port. -/
def port? (cs : List Char) : Option (List Char) := do
  number? 10 (2 ^ 16) (← expect? ':' cs)

/-- Whether the text is an address with a port. -/
def isSocketAddress (text : String) : Bool :=
  let cs := text.toList
  let short := (quad? cs).bind port?
  let long := do
    let cs ← eightGroups? (← expect? '[' cs)
    let cs ← expect? ']' (← zone? cs)
    port? cs
  short == some [] || long == some []

end NodeStack.Settings.Address
