import NodeStack.Text.Digits
import NodeStack.Text.Utf8

/-!
# `NodeStack.Text.Percent`: bytes written as percent signs and digits

- `unescape`: the bytes of a text in which a percent sign and two hexadecimal digits stand for one
  byte. A percent sign without two digits stands for itself.
-/

set_option autoImplicit false

namespace NodeStack.Text.Percent

/-- The byte of two hexadecimal digits. -/
def byte? (high low : Char) : Option UInt8 := do
  let high ← digit? 16 high
  let low ← digit? 16 low
  pure (UInt8.ofNat (16 * high + low))

/-- The bytes of a text. -/
def unescape : List Char → List UInt8
  | [] => []
  | '%' :: high :: low :: rest =>
    match byte? high low with
    | some b => b :: unescape rest
    | none => Utf8.encodeChar '%' ++ unescape (high :: low :: rest)
  | c :: rest => Utf8.encodeChar c ++ unescape rest

end NodeStack.Text.Percent
