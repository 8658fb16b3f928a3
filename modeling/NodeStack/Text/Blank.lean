/-!
# `NodeStack.Text.Blank`: white space and trimming

- `isBlank`: the characters with the Unicode property of white space.
- `trim`: a text without the white space at its ends.
-/

set_option autoImplicit false

namespace NodeStack.Text

/-- Closed ranges of the white space characters, ascending and apart. -/
def blankRanges : List (Nat × Nat) :=
  [(0x09, 0x0D), (0x20, 0x20), (0x85, 0x85), (0xA0, 0xA0), (0x1680, 0x1680), (0x2000, 0x200A),
   (0x2028, 0x2029), (0x202F, 0x202F), (0x205F, 0x205F), (0x3000, 0x3000)]

/-- Whether the character is white space. -/
def isBlank (c : Char) : Bool :=
  blankRanges.any fun r => r.1 ≤ c.toNat && c.toNat ≤ r.2

/-- The characters without those at the end for which `p` holds. -/
def trimEnd (p : Char → Bool) (cs : List Char) : List Char :=
  (cs.reverse.dropWhile p).reverse

/-- The characters without the white space at both ends. -/
def trimChars (cs : List Char) : List Char :=
  trimEnd isBlank (cs.dropWhile isBlank)

/-- The text without the white space at both ends. -/
def trim (s : String) : String :=
  String.ofList (trimChars s.toList)

end NodeStack.Text
