import NodeStack.Decimal.Binary

/-!
# `NodeStack.Decimal.Shortest`: the fewest digits that read back

- `Scaled`: digits times a power of ten.
- `Binary.readsBack`: whether a decimal lies among the reals that round to a double.
- `Binary.shortest`: the decimal with the fewest digits that reads back; of two, the nearer one,
  and on a tie the even one.
- `layout`: the text of such a decimal, positional between `1e-5` and `1e16`.
- `shortestText`: the text of a finite double.
-/

set_option autoImplicit false

namespace NodeStack.Decimal

/-- `digits * 10 ^ exp`. -/
structure Scaled where
  /-- The digits, as one number. -/
  digits : Nat
  /-- The power of ten of the last digit. -/
  exp : Int
  deriving Repr, DecidableEq

/-- Compares `a * 10 ^ i` with `n * 2 ^ j`, exactly. -/
def compareScaled (a : Nat) (i : Int) (n : Nat) (j : Int) : Ordering :=
  compare (a * 10 ^ i.toNat * 2 ^ (-j).toNat) (n * 2 ^ j.toNat * 10 ^ (-i).toNat)

/-- The decimal lies among the reals that round to the double. The ends of that interval belong to
it exactly when the significand is even. -/
def Binary.readsBack (x : Binary) (d : Scaled) : Bool :=
  let low := if x.narrowBelow then 4 * x.m - 1 else 4 * x.m - 2
  let atLow := compareScaled d.digits d.exp low (x.q - 2)
  let atHigh := compareScaled d.digits d.exp (4 * x.m + 2) (x.q - 2)
  let even := x.m % 2 == 0
  (atLow == .gt || (even && atLow == .eq)) && (atHigh == .lt || (even && atHigh == .eq))

/-- The whole part of the double in units of `10 ^ e`. -/
def Binary.floorAt (x : Binary) (e : Int) : Nat :=
  (x.m * 2 ^ x.q.toNat * 10 ^ (-e).toNat) / (2 ^ (-x.q).toNat * 10 ^ e.toNat)

/-- The least `k` with `x < 10 ^ k`, looked for upwards from `start` in at most `fuel` steps. -/
def Binary.scaleFrom (x : Binary) : Nat → Int → Int
  | 0, k => k
  | fuel + 1, k => if compareScaled 1 k x.m x.q == .gt then k else x.scaleFrom fuel (k + 1)

/-- The least `k` with `x < 10 ^ k`, for a positive double. -/
def Binary.scale (x : Binary) : Int :=
  let bits : Int := x.q + (Nat.log2 x.m : Int)
  x.scaleFrom 8 (bits * 30103 / 100000 - 2)

/-- The candidate on the grid of `10 ^ e` that reads back, if one does. -/
def Binary.onGrid (x : Binary) (e : Int) : Option Scaled :=
  let below : Scaled := ⟨x.floorAt e, e⟩
  let above : Scaled := ⟨x.floorAt e + 1, e⟩
  match x.readsBack below, x.readsBack above with
  | true, false => some below
  | false, true => some above
  | false, false => none
  | true, true =>
    match compareScaled (below.digits + above.digits) e (2 * x.m) x.q with
    | .gt => some below
    | .lt => some above
    | .eq => if below.digits % 2 == 0 then some below else some above

/-- Moves the zeros at the end of the digits into the exponent. -/
def Scaled.strip : Nat → Scaled → Scaled
  | 0, d => d
  | fuel + 1, d =>
    if d.digits % 10 == 0 && d.digits != 0 then Scaled.strip fuel ⟨d.digits / 10, d.exp + 1⟩ else d

/-- The exact value as a decimal. -/
def Binary.exact (x : Binary) : Scaled :=
  ⟨x.m * 2 ^ x.q.toNat * 5 ^ (-x.q).toNat, -((-x.q).toNat : Int)⟩

/-- The fewest digits that read back to a positive double. -/
def Binary.shortest (x : Binary) : Scaled :=
  let k := x.scale
  let found := (List.range 17).findSome? fun (n : Nat) => x.onGrid (k - (n : Int) - 1)
  Scaled.strip 1100 (found.getD x.exact)

/-- The text of a positive decimal: positional when its leading digit stands between `10 ^ -5` and
`10 ^ 15`, otherwise with an exponent. -/
def layout (d : Scaled) : List Char :=
  let digits := Nat.toDigits 10 d.digits
  let lead : Int := d.exp + digits.length
  if 0 ≤ d.exp && lead ≤ 16 then
    digits ++ List.replicate d.exp.toNat '0' ++ ['.', '0']
  else if 0 < lead && lead ≤ 16 then
    digits.take lead.toNat ++ '.' :: digits.drop lead.toNat
  else if -5 < lead && lead ≤ 0 then
    ['0', '.'] ++ List.replicate (-lead).toNat '0' ++ digits
  else
    let exponent := (toString (lead - 1)).toList
    match digits with
    | [first] => first :: 'e' :: exponent
    | first :: rest => first :: '.' :: rest ++ 'e' :: exponent
    | [] => []

/-- The text of a finite double with the fewest digits that read back. -/
def shortestText (bits : UInt64) : List Char :=
  let x := Binary.ofBits bits
  let text := if x.m == 0 then ['0', '.', '0'] else layout x.shortest
  if signBit bits then '-' :: text else text

end NodeStack.Decimal
