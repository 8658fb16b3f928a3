import NodeStack.Service.Inquiry
import NodeStack.Service.Progress
import NodeStack.Text.Split

/-!
# `NodeStack.Service.Lightning.Status`: the status of a lightning node

- `statusOfFault`: the status of a node that answers with a fault, a locked wallet among them.
- `status`: the status.
-/

set_option autoImplicit false

namespace NodeStack.Service.Lightning

/-- The status of a node whose wallet is locked. -/
def walletLocked : String := "Wallet locked. Unlock with lncli unlock."

/-- Whether a status says that the wallet is locked, in words or by not knowing the interface. -/
def saysLocked (code : Upstream.Code) (text : String) : Bool :=
  Text.contains text "wallet locked" || Text.contains text "Wallet is encrypted" ||
    (code == .unimplemented && Text.contains text "lnrpc.Lightning")

/-- The status of a node that answers with a fault. -/
def statusOfFault (name : String) (fault : Upstream.Fault) : String :=
  let other := if fault.unreachable then waitingFor name else s!"Error: {fault.message}"
  match fault with
  | .status code text => if saysLocked code text then walletLocked else other
  | _ => other

/-- The status of a lightning node. -/
def status (name : String) : Inquiry String := do
  let base ← Inquiry.base
  if base.isRunning then
    match ← Inquiry.lightning with
    | .ok info => pure (if info.syncedToChain then readyText else "Syncing")
    | .error fault => pure (statusOfFault name fault)
  else pure base.text

end NodeStack.Service.Lightning
