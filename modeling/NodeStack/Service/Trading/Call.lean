import NodeStack.Service.Trading.Message

/-!
# `NodeStack.Service.Trading.Call`: the calls of the trading daemon

- `Call`: what the daemon can be asked.
- `Call.Answer`, `Call.answerJson`: what it answers, and the answer as a JSON value.
-/

set_option autoImplicit false

namespace NodeStack.Service.Trading

/-- What the trading daemon can be asked. -/
inductive Call where
  /-- Its state. -/
  | info
  /-- The balance of a currency, or of all. -/
  | balance (currency : Option String)
  /-- To create a node. -/
  | create (password : String)
  /-- To unlock the node. -/
  | unlock (password : String)
  deriving Repr, DecidableEq

namespace Call

/-- The type of the answers to a call. -/
def Answer : Call → Type
  | .info => Info
  | .balance _ => Balances
  | .create _ => Created
  | .unlock _ => Unlocked

/-- An answer as a JSON value. -/
def answerJson : (c : Call) → c.Answer → Json
  | .info, i => Info.json i
  | .balance _, b => balancesJson b
  | .create _, c => Created.json c
  | .unlock _, u => Unlocked.json u

end Call

end NodeStack.Service.Trading
