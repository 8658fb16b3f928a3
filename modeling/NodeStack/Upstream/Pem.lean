import NodeStack.Text.Split

/-!
# `NodeStack.Upstream.Pem`: certificates in text form

- `isWellFormed`: whether every certificate in a text has an end and can be decoded.

Lines outside the certificates do not matter, so a text without certificates is well formed.
-/

set_option autoImplicit false

namespace NodeStack.Upstream.Pem

/-- A section that has begun. -/
structure Section where
  /-- The line that ends it. -/
  ending : List Char
  /-- Its content so far. -/
  content : List Char

/-- Whether a character is a blank at the end of a line. -/
def isTrail (c : Char) : Bool := c = '\n' || c = '\r' || c = ' '

/-- The type of the section that a line begins; a fault if the line does not end with five dashes.
-/
def beginning? (line : List Char) : Option (Option (List Char)) :=
  (Text.after? "-----BEGIN ".toList line).map fun rest =>
    let reversed := rest.reverse.filter (fun c => !isTrail c)
    let dashes := reversed.takeWhile (· = '-')
    if dashes.length = 5 then some (reversed.dropWhile (· = '-')).reverse else none

/-- Whether a character is a digit of base 64. -/
def isDigit (c : Char) : Bool := c.isAlphanum || c = '+' || c = '/'

/-- Whether a content can be decoded: groups of four digits, the last of them filled up. -/
def isDecodable (content : List Char) : Bool :=
  let cs := content.filter fun c => !isTrail c && c != '\t'
  let digits := cs.takeWhile isDigit
  let padding := cs.drop digits.length
  cs.length % 4 = 0 && padding.all (· = '=') && padding.length ≤ 2

/-- Goes on with a line. -/
def step (current : Option Section) (line : List Char) : Option (Option Section) :=
  match beginning? line with
  | some none => none
  | some (some type) => some (some ⟨"-----END ".toList ++ type ++ "-----".toList, []⟩)
  | none =>
    match current with
    | none => some none
    | some s =>
      if (Text.after? s.ending line).isSome then
        if isDecodable s.content then some none else none
      else some (some { s with content := s.content ++ line })

/-- Whether every certificate in a text has an end and can be decoded. -/
def isWellFormed (text : List Char) : Bool :=
  match (Text.lines text).foldlM step none with
  | some none => true
  | _ => false

end NodeStack.Upstream.Pem
