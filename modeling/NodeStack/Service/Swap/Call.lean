import NodeStack.Service.Swap.Message

/-!
# `NodeStack.Service.Swap.Call`: the calls of the swap service

- `Call`: what the node of a currency can be asked.
- `Call.Answer`, `Call.answerJson`: what it answers, and the answer as a JSON value.
-/

set_option autoImplicit false

namespace NodeStack.Service.Swap

/-- What the swap service can be asked. -/
inductive Call where
  /-- Its terms. -/
  | terms
  /-- To prepare a deposit. -/
  | deposit (inboundLiquidity : Nat)
  /-- To prepare a withdrawal. -/
  | withdraw (amount : Int) (address : String)
  deriving Repr, DecidableEq

namespace Call

/-- The type of the answers to a call. -/
def Answer : Call → Type
  | .terms => Info
  | .deposit _ => Deposit
  | .withdraw _ _ => Withdrawal

/-- An answer as a JSON value. -/
def answerJson : (c : Call) → c.Answer → Json
  | .terms, i => Info.json i
  | .deposit _, d => Deposit.json d
  | .withdraw _ _, w => Withdrawal.json w

end Call

end NodeStack.Service.Swap
