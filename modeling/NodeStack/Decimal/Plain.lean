import NodeStack.Decimal.Shortest

/-!
# `NodeStack.Decimal.Plain`: doubles as people write them

- `plainText`: the fewest digits that read back, without an exponent; no point on a whole number.
- `ofPlain?`: reads a double: digits with an optional point and exponent, or a name of a value that
  is not finite.
-/

set_option autoImplicit false

namespace NodeStack.Decimal

/-- The digits of a decimal, positional. -/
def layoutPlain (d : Scaled) : List Char :=
  let digits := Nat.toDigits 10 d.digits
  let lead : Int := d.exp + digits.length
  if 0 ≤ d.exp then digits ++ List.replicate d.exp.toNat '0'
  else if 0 < lead then digits.take lead.toNat ++ '.' :: digits.drop lead.toNat
  else '0' :: '.' :: List.replicate (-lead).toNat '0' ++ digits

/-- The text of a double. -/
def plainText (bits : UInt64) : String :=
  let f := Float.ofBits bits
  if f.isNaN then "NaN"
  else
    let x := Binary.ofBits bits
    let text :=
      if f.isInf then "inf"
      else if x.m == 0 then "0"
      else String.ofList (layoutPlain x.shortest)
    if signBit bits then "-" ++ text else text

/-- Whether the character is a decimal digit. -/
def isDigit (c : Char) : Bool := '0' ≤ c && c ≤ '9'

/-- The number that decimal digits stand for. -/
def digitsNumber (cs : List Char) : Nat :=
  cs.foldl (fun n c => 10 * n + (c.toNat - '0'.toNat)) 0

/-- The value of an exponent: its mark, an optional sign and digits; zero when nothing is left. -/
def exponent? : List Char → Option Int
  | [] => some 0
  | e :: cs =>
    if e = 'e' || e = 'E' then
      let (negative, digits) :=
        match cs with
        | '-' :: rest => (true, rest)
        | '+' :: rest => (false, rest)
        | rest => (false, rest)
      if digits.isEmpty || digits.any (fun c => !isDigit c) then none
      else
        let n := digitsNumber digits
        some (if negative then -(n : Int) else n)
    else none

/-- The double nearest to `digits * 10 ^ exponent`. Exponents far beyond the range of doubles are
cut off first. -/
def nearest (digits : Nat) (exponent : Int) : Float :=
  let bound : Int := 2000 + (Nat.log2 (digits + 1) : Int)
  let e := max (-bound) (min bound exponent)
  if digits = 0 then 0.0
  else if 0 ≤ e then Float.ofScientific (digits * 10 ^ e.toNat) false 0
  else Float.ofScientific digits true (-e).toNat

/-- A double without its sign: digits with an optional point and exponent. -/
def magnitude? (cs : List Char) : Option Float :=
  let whole := cs.takeWhile isDigit
  let rest := cs.dropWhile isDigit
  let (places, rest) :=
    match rest with
    | '.' :: r => (r.takeWhile isDigit, r.dropWhile isDigit)
    | r => ([], r)
  if whole.isEmpty && places.isEmpty then none
  else (exponent? rest).map fun e => nearest (digitsNumber (whole ++ places)) (e - places.length)

/-- A value that is not finite, by its name in any case. -/
def named? (cs : List Char) : Option Float :=
  let name := String.ofList (cs.map Char.toLower)
  if name = "inf" || name = "infinity" then some (1.0 / 0.0)
  else if name = "nan" then some (0.0 / 0.0)
  else none

/-- Reads a double, with an optional sign. -/
def ofPlain? (cs : List Char) : Option Float :=
  let (negative, rest) :=
    match cs with
    | '-' :: r => (true, r)
    | '+' :: r => (false, r)
    | r => (false, r)
  ((magnitude? rest).orElse fun _ => named? rest).map fun f => if negative then -f else f

end NodeStack.Decimal
