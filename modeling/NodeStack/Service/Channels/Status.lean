import NodeStack.Service.Inquiry
import NodeStack.Service.Progress

/-!
# `NodeStack.Service.Channels.Status`: the status of the payment channel node

- `status`: the status the trading daemon reports, and without one what the node itself says.
-/

set_option autoImplicit false

namespace NodeStack.Service.Channels

/-- The name of the trading daemon. -/
def tradingName : String := "opendexd"

/-- The status that a trading daemon reports, if it reports one. -/
def reportedIn (answer : Except Upstream.Fault Trading.Info) : Option String :=
  answer.toOption.bind fun info =>
    (info.channels.map (·.status)).filter (· != "")

/-- The status that the trading daemon reports, if there is one that reports it. -/
def reported (around : Surroundings) : Inquiry (Option String) :=
  match around.kindOf tradingName with
  | some (.trading _) => do
    let answer ← Inquiry.trading tradingName
    pure (reportedIn answer)
  | _ => pure none

/-- The status of the payment channel node. -/
def status (around : Surroundings) : Inquiry String := do
  let base ← Inquiry.base
  if base.isRunning then
    match ← reported around with
    | some text => pure text
    | none => pure (if ← Inquiry.health then readyText else "Starting...")
  else pure base.text

end NodeStack.Service.Channels
