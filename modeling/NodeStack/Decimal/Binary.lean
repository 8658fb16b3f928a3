import NodeStack.Power

/-!
# `NodeStack.Decimal.Binary`: a double as an integer times a power of two

- `Binary`: a finite non-negative double, `m * 2 ^ q`.
- `Binary.ofBits`: the value behind the 64 bits of a double.
- `roundDiv`: a quotient rounded to the nearest whole number, a half to the even neighbour.

Everything that turns a double into text works on this exact form.
-/

set_option autoImplicit false

namespace NodeStack.Decimal

/-- A finite non-negative double, `m * 2 ^ q`. -/
structure Binary where
  /-- The significand. -/
  m : Nat
  /-- The binary exponent. -/
  q : Int
  /-- The gap to the value below is half the gap to the value above. -/
  narrowBelow : Bool
  deriving Repr, DecidableEq

/-- The magnitude of a finite double, from its bits. The sign bit is left out. -/
def Binary.ofBits (bits : UInt64) : Binary :=
  let exponent := ((bits >>> 52) &&& 0x7FF).toNat
  let fraction := (bits &&& 0xFFFFFFFFFFFFF).toNat
  if exponent == 0 then
    { m := fraction, q := -1074, narrowBelow := false }
  else
    { m := 2 ^ 52 + fraction, q := (exponent : Int) - 1075,
      narrowBelow := fraction == 0 && exponent > 1 }

/-- Whether the sign bit is set. -/
def signBit (bits : UInt64) : Bool :=
  bits >>> 63 == 1

/-- `num / den` rounded to the nearest whole number; a half goes to the even neighbour. -/
def roundDiv (num den : Nat) : Nat :=
  let quotient := num / den
  match compare (2 * (num % den)) den with
  | .lt => quotient
  | .gt => quotient + 1
  | .eq => if quotient % 2 == 0 then quotient else quotient + 1

end NodeStack.Decimal
