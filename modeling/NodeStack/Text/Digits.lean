import NodeStack.Power

/-!
# `NodeStack.Text.Digits`: whole numbers as text

- `digitsValue?`: the value of a non-empty run of digits in a base.
- `natural?`: digits with an optional plus sign, below a bound.
- `integer?`: digits with an optional sign, within 64 signed bits.
-/

set_option autoImplicit false

namespace NodeStack.Text

/-- The value of a digit in the given base; letters of either case stand for the digits from ten. -/
def digit? (base : Nat) (c : Char) : Option Nat :=
  let value :=
    if '0' ≤ c && c ≤ '9' then some (c.toNat - '0'.toNat)
    else if 'a' ≤ c && c ≤ 'z' then some (c.toNat - 'a'.toNat + 10)
    else if 'A' ≤ c && c ≤ 'Z' then some (c.toNat - 'A'.toNat + 10)
    else none
  value.filter (· < base)

/-- The value of digits that follow digits worth `acc`. -/
def digitsFrom (base : Nat) : (acc : Nat) → List Char → Option Nat
  | acc, [] => some acc
  | acc, c :: cs => (digit? base c).bind fun d => digitsFrom base (base * acc + d) cs

/-- The value of one or more digits. -/
def digitsValue? (base : Nat) (cs : List Char) : Option Nat :=
  if cs.isEmpty then none else digitsFrom base 0 cs

/-- The text without a plus sign at its beginning. -/
def dropPlus : List Char → List Char
  | '+' :: cs => cs
  | cs => cs

/-- One or more digits with an optional plus sign, of a value below `bound`. -/
def natural? (base bound : Nat) (cs : List Char) : Option Nat :=
  (digitsValue? base (dropPlus cs)).filter (· < bound)

/-- Whether the value fits 64 signed bits. -/
def fits64 (n : Int) : Bool :=
  -(2 ^ 63) ≤ n && n < 2 ^ 63

/-- One or more decimal digits with an optional sign, within 64 signed bits. -/
def integer? : List Char → Option Int
  | '-' :: cs => ((digitsValue? 10 cs).map fun n => -(n : Int)).filter fits64
  | cs => ((digitsValue? 10 (dropPlus cs)).map fun n => (n : Int)).filter fits64

/-- Two lower-case hexadecimal digits for each byte. -/
def hexText (bytes : List UInt8) : String :=
  String.ofList
    (bytes.flatMap fun b => [Nat.digitChar (b.toNat / 16), Nat.digitChar (b.toNat % 16)])

/-- The bytes written as pairs of hexadecimal digits; a digit left over at the end is dropped. -/
def hexBytes? : List Char → Option (List UInt8)
  | a :: b :: rest => do
    let high ← digit? 16 a
    let low ← digit? 16 b
    let bytes ← hexBytes? rest
    pure (UInt8.ofNat (16 * high + low) :: bytes)
  | _ => some []

end NodeStack.Text
