import NodeStack.Text.Case.Table

/-!
# `NodeStack.Text.Case`: upper and lower case of a text

- `lower`, `upper`: the case mappings of a whole text.

A capital sigma is written as the final small sigma when a letter stands before it and none after
it; characters without case that join words are passed over on both sides.
-/

set_option autoImplicit false

namespace NodeStack.Text.Case

/-- Whether a code point lies in one of the closed ranges. -/
def inRanges (ranges : List (Nat × Nat)) (n : Nat) : Bool :=
  ranges.any fun r => r.1 ≤ n && n ≤ r.2

/-- The image of a code point under the runs; itself when no run holds it. -/
def shift (runs : List (Nat × Nat × Nat × Int)) (n : Nat) : Nat :=
  match runs.find? fun (first, last, stride, _) =>
      first ≤ n && n ≤ last && (n - first) % stride == 0 with
  | some (_, _, _, offset) => ((n : Int) + offset).toNat
  | none => n

/-- One character under a case mapping. -/
def mapChar (runs : List (Nat × Nat × Nat × Int)) (wide : List (Nat × List Nat)) (c : Char) :
    List Char :=
  match wide.lookup c.toNat with
  | some points => points.map Char.ofNat
  | none => [Char.ofNat (shift runs c.toNat)]

/-- Whether the first character that is not passed over has case. -/
def nextHasCase (cs : List Char) : Bool :=
  match cs.dropWhile fun c => inRanges ignorableRanges c.toNat with
  | c :: _ => inRanges casedRanges c.toNat
  | [] => false

/-- Lower case of what follows `before`, which holds the characters already passed, last first. -/
def lowerFrom : List Char → List Char → List Char
  | _, [] => []
  | before, c :: rest =>
    let here :=
      if c = 'Σ' then
        if nextHasCase before && !nextHasCase rest then ['ς'] else ['σ']
      else mapChar lowerRuns lowerWide c
    here ++ lowerFrom (c :: before) rest

/-- The text in lower case. -/
def lower (s : String) : String :=
  String.ofList (lowerFrom [] s.toList)

/-- The text in upper case. -/
def upper (s : String) : String :=
  String.ofList (s.toList.flatMap (mapChar upperRuns upperWide))

end NodeStack.Text.Case
