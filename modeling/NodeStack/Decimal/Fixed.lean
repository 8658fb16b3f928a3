import NodeStack.Decimal.Binary

/-!
# `NodeStack.Decimal.Fixed`: a double with a fixed number of places

- `Binary.scaled`: the exact value of a double rounded to so many decimal places.
- `fixed`: its text.

The value rounded is the exact binary one, and a half goes to the even neighbour.
-/

set_option autoImplicit false

namespace NodeStack.Decimal

/-- `m * 2 ^ q` in units of `10 ^ -n`, rounded to a whole number. -/
def Binary.scaled (x : Binary) (n : Nat) : Nat :=
  roundDiv (x.m * 10 ^ n * 2 ^ x.q.toNat) (2 ^ (-x.q).toNat)

/-- A number of units of `10 ^ -n` as text with `n` places; `n` is at least one. -/
def layoutFixed (units n : Nat) : String :=
  let digits := Nat.toDigits 10 units
  let padded := List.replicate (n + 1 - digits.length) '0' ++ digits
  let whole := padded.take (padded.length - n)
  String.ofList (whole ++ '.' :: padded.drop (padded.length - n))

/-- A finite double with `n` decimal places. -/
def fixed (value : Float) (n : Nat) : String :=
  let bits := value.toBits
  let text := layoutFixed ((Binary.ofBits bits).scaled n) n
  if signBit bits then "-" ++ text else text

end NodeStack.Decimal
