import NodeStack.Service.Progress
import NodeStack.Service.Trading.Message
import NodeStack.Text.Split

/-!
# `NodeStack.Service.Trading.Readiness`: whether the trading daemon can trade

- `readiness`: the status that the daemon's view of its lightning nodes and of the payment channels
  gives.
-/

set_option autoImplicit false

namespace NodeStack.Service.Trading

/-- The status of the lightning node of a currency; empty when the daemon sees none. -/
def lightningStatus (info : Info) (currency : String) : String :=
  match info.lightning.get? currency with
  | some view => view.status
  | none => ""

/-- The status of the payment channels; empty when the daemon sees none. -/
def channelsStatus (info : Info) : String :=
  match info.channels with
  | some view => view.status
  | none => ""

/-- What the daemon needs in order to trade, each with its status. -/
def needs (info : Info) : List (String × String) :=
  [("lndbtc", lightningStatus info "BTC"), ("lndltc", lightningStatus info "LTC"),
   ("connext", channelsStatus info)]

/-- The status of the daemon: ready when all it needs is ready; else it lacks channels when one of
them says so; else it waits for those that are not ready. -/
def readiness (info : Info) : String :=
  let parts := needs info
  let waiting := parts.filter fun (_, status) => status != readyText
  if waiting.isEmpty then readyText
  else if parts.any fun (_, status) => Text.contains status "has no active channels" then
    "Waiting for channels"
  else "Waiting for " ++ Text.joinWith ", " (waiting.map (·.1))

end NodeStack.Service.Trading
