import NodeStack.Service.Fault
import NodeStack.Text.Case

/-!
# `NodeStack.Service.Swap.Currency`: the currencies that can be swapped

- `Currency`: bitcoin and litecoin.
- `Currency.ofText?`: the currency of a text, in any case.
-/

set_option autoImplicit false

namespace NodeStack.Service.Swap

/-- A currency that can be swapped. -/
inductive Currency where
  | btc
  | ltc
  deriving Repr, DecidableEq

namespace Currency

/-- The name of a currency. -/
def name : Currency → String
  | .btc => "btc"
  | .ltc => "ltc"

/-- The currency a text names, in any case. -/
def ofText? (text : String) : Except Fault Currency :=
  let name := Text.Case.lower text
  if name = "btc" then .ok .btc
  else if name = "ltc" then .ok .ltc
  else .error (.invalidArgument s!"unknown currency: {name}")

end Currency

end NodeStack.Service.Swap
