import NodeStack.Service.Idle
import NodeStack.Service.Inquiry
import NodeStack.Service.Trading.Readiness

/-!
# `NodeStack.Service.Trading.Status`: the status of the trading daemon

- `statusOfFault`: the status of a daemon that answers with a fault.
- `status`: the status.
-/

set_option autoImplicit false

namespace NodeStack.Service.Trading

/-- The status of a daemon that has no wallet. -/
def walletMissing : String := "Wallet missing. Create with opendex-cli create/restore."

/-- The status of a daemon whose wallet is locked. -/
def walletLocked : String := "Wallet locked. Unlock with opendex-cli unlock."

/-- The status of a daemon that comes up. -/
def startingText : String := "Starting..."

/-- The status of a daemon that answers with a fault. A daemon that is locked has a wallet only if
its key file exists. -/
def statusOfFault (keyPath : String) (fault : Upstream.Fault) : Inquiry String :=
  let other := if fault.unreachable then startingText else s!"Error: {fault.message}"
  match fault with
  | .status _ text =>
    if Text.contains text "is locked" then do
      pure (if ← Inquiry.present keyPath then walletLocked else walletMissing)
    else if Text.contains text "is starting" then pure startingText
    else pure other
  | _ => pure other

/-- The status of the trading daemon. -/
def status (around : Surroundings) (name keyPath : String) : Inquiry String := do
  let base ← Inquiry.base
  if base.isRunning then
    match ← Inquiry.trading name with
    | .ok info => pure (readiness info)
    | .error fault => statusOfFault keyPath fault
  else pure (idleText around.isSetup base)

end NodeStack.Service.Trading
