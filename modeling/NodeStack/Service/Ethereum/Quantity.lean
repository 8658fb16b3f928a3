import NodeStack.Json.Basic
import NodeStack.Text.Digits
import NodeStack.Text.Split

/-!
# `NodeStack.Service.Ethereum.Quantity`: quantities as Ethereum nodes write them

- `quantity?`: the value of a quantity: hexadecimal digits after an optional `0x`, below `2 ^ 64`.
-/

set_option autoImplicit false

namespace NodeStack.Service.Ethereum

/-- The text without the mark of hexadecimal digits. -/
def dropMark (cs : List Char) : List Char :=
  (Text.after? ['0', 'x'] cs).getD cs

/-- The value of a quantity. -/
def quantity? (value : Json) : Option Nat :=
  value.text?.bind fun s => Text.natural? 16 (2 ^ 64) (dropMark s.toList)

end NodeStack.Service.Ethereum
