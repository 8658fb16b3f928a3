import NodeStack.Json.Basic

/-!
# `NodeStack.Json.Literal`: the numbers of a JSON text

- `Literal`: the parts of a number as it is written.
- `Literal.read?`: a literal at the beginning of a text, and what follows it.
- `Literal.number?`: the number a literal stands for, if it is within range.

A literal without fraction and exponent is a whole number while it fits 64 bits. Any other is a
double: its digits are gathered into a significand of 64 bits until the next one would overflow it;
further whole digits only scale it, further places are dropped, and the significand is then
multiplied or divided by the power of ten, each step rounded to nearest.
-/

set_option autoImplicit false

namespace NodeStack.Json

/-- The parts of a number as it is written. -/
structure Literal where
  /-- A minus sign stands first. -/
  negative : Bool
  /-- The digits before the point. -/
  whole : List Nat
  /-- The digits after the point, if there is one. -/
  places : Option (List Nat)
  /-- The sign and the digits of the exponent, if there is one. -/
  exponent : Option (Bool × List Nat)
  deriving Repr, DecidableEq

namespace Literal

/-- The value of a decimal digit. -/
def digit? (c : Char) : Option Nat :=
  if '0' ≤ c && c ≤ '9' then some (c.toNat - '0'.toNat) else none

/-- The digits at the beginning of a text, and what follows them. -/
def digits : List Char → List Nat × List Char
  | [] => ([], [])
  | c :: cs =>
    match digit? c with
    | some d => let (ds, rest) := digits cs; (d :: ds, rest)
    | none => ([], c :: cs)

/-- One or more digits at the beginning of a text. -/
def someDigits? (cs : List Char) : Option (List Nat × List Char) :=
  match digits cs with
  | ([], _) => none
  | found => some found

/-- The digits before the point: a zero alone, or digits that do not begin with one. -/
def wholePart? (cs : List Char) : Option (List Nat × List Char) :=
  match digits cs with
  | ([], _) => none
  | (0 :: _ :: _, _) => none
  | found => some found

/-- The point and the places after it, if a point comes next. -/
def placesPart? : List Char → Option (Option (List Nat) × List Char)
  | '.' :: cs => (someDigits? cs).map fun (ds, rest) => (some ds, rest)
  | cs => some (none, cs)

/-- The sign of an exponent: whether it is negative. -/
def exponentSign : List Char → Bool × List Char
  | '-' :: cs => (true, cs)
  | '+' :: cs => (false, cs)
  | cs => (false, cs)

/-- The exponent, if one comes next. -/
def exponentPart? : List Char → Option (Option (Bool × List Nat) × List Char)
  | c :: cs =>
    if c = 'e' || c = 'E' then
      let (negative, cs) := exponentSign cs
      (someDigits? cs).map fun (ds, rest) => (some (negative, ds), rest)
    else some (none, c :: cs)
  | [] => some (none, [])

/-- The sign of a literal: whether it is negative. -/
def sign : List Char → Bool × List Char
  | '-' :: cs => (true, cs)
  | cs => (false, cs)

/-- A literal at the beginning of a text, and what follows it. -/
def read? (cs : List Char) : Option (Literal × List Char) := do
  let (negative, cs) := sign cs
  let (whole, cs) ← wholePart? cs
  let (places, cs) ← placesPart? cs
  let (exponent, cs) ← exponentPart? cs
  pure (⟨negative, whole, places, exponent⟩, cs)

/-! ### The number a literal stands for -/

/-- Gathers digits into a significand below `2 ^ 64`: the significand and the number of digits that
no longer fitted. From the first one that does not fit on, none is taken. -/
def gather : (significand : Nat) → List Nat → Nat × Nat
  | s, [] => (s, 0)
  | s, d :: ds => if 10 * s + d < 2 ^ 64 then gather (10 * s + d) ds else (s, ds.length + 1)

/-- The value of an exponent's digits, or nothing when it does not fit 31 bits. -/
def exponentValue : (acc : Nat) → List Nat → Option Nat
  | acc, [] => some acc
  | acc, d :: ds => if 10 * acc + d < 2 ^ 31 then exponentValue (10 * acc + d) ds else none

/-- The double `significand * 10 ^ exponent`, by one rounded multiplication or division, or by
several when the exponent is below -308; nothing when it is too large. -/
def scaled? : (fuel : Nat) → Float → Int → Option Float
  | 0, f, _ => some f
  | fuel + 1, f, e =>
    if e.natAbs ≤ 308 then
      let power := Float.ofScientific 1 false e.natAbs
      if 0 ≤ e then
        let product := f * power
        if product.isInf then none else some product
      else some (f / power)
    else if f == 0.0 then some f
    else if 0 ≤ e then none
    else scaled? fuel (f / Float.ofScientific 1 false 308) (e + 308)

/-- A double with a sign. -/
def signed (negative : Bool) (f : Float) : Number :=
  .double (if negative then -f else f).toBits

/-- The double a literal stands for, if it is within range. -/
def double? (l : Literal) : Option Number := do
  let (significand, dropped) := gather 0 l.whole
  let (significand, taken) :=
    match l.places with
    | none => (significand, 0)
    | some ds =>
      let (s, left) := gather significand ds
      (s, ds.length - left)
  let base : Int := (dropped : Int) - taken
  let f := (UInt64.ofNat significand).toFloat
  match l.exponent with
  | none => (scaled? 16 f base).map (signed l.negative)
  | some (negative, ds) =>
    match exponentValue 0 ds with
    | some e =>
      let exponent : Int := if negative then base - (e : Int) else base + (e : Int)
      (scaled? 16 f exponent).map (signed l.negative)
    | none => if significand != 0 && !negative then none else some (signed l.negative 0.0)

/-- The whole number a literal without fraction and exponent stands for, if it fits 64 bits; a
negative zero is no whole number. -/
def whole? (l : Literal) : Option Int :=
  if l.places.isSome || l.exponent.isSome then none
  else
    let n : Nat := l.whole.foldl (fun acc d => 10 * acc + d) 0
    if l.negative then if 0 < n && n ≤ 2 ^ 63 then some (-(n : Int)) else none
    else if n < 2 ^ 64 then some (n : Int) else none

/-- The number a literal stands for, if it is within range. -/
def number? (l : Literal) : Option Number :=
  match l.whole? with
  | some n => some (.whole n)
  | none => l.double?

end Literal

end NodeStack.Json
