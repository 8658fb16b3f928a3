import NodeStack.Json.Printer
import NodeStack.Service.Channels.Providers
import NodeStack.Service.Ethereum.Provider
import NodeStack.Service.Ethereum.Quantity
import NodeStack.Service.Inquiry
import NodeStack.Service.Progress

/-!
# `NodeStack.Service.Ethereum.Status`: the status of an Ethereum node

- `provider`: the address of the node that is used, from the payment channel service.
- `nativeStatus`: the status of a node of this stack.
- `status`: the status. A node elsewhere is only probed.
-/

set_option autoImplicit false

namespace NodeStack.Service.Ethereum

/-- The name of the payment channel service. -/
def channelsName : String := "connext"

/-- The address of the node that is used for a chain, from the variable that holds the settings of
the payment channel service. -/
def providerIn (chainId : String) : Except Fault (Option String) → Except Fault String
  | .error fault => .error fault
  | .ok raw =>
    match raw.filter (· != "") with
    | none => .error (.malformed s!"{Channels.configKey} not found")
    | some raw => (Channels.providers? raw).bind fun chains => Channels.provider? chains chainId

/-- The address of the node that is used for a chain. -/
def provider (around : Surroundings) (chainId : String) : Inquiry (Except Fault String) :=
  match around.kindOf channelsName with
  | some .channels => do
    let raw ← Inquiry.environment channelsName Channels.configKey
    pure (providerIn chainId raw)
  | _ => pure (.error (.sibling channelsName))

/-- The status of a node elsewhere, when it answers and when it does not. -/
def Provider.texts : Provider → String × String
  | .infura => ("Ready (connected to Infura)", "Unavailable (connection to Infura failed)")
  | .light => ("Ready (light mode)", "Unavailable (light mode failed)")
  | .native | .external =>
    ("Ready (connected to external)", "Unavailable (connection to external failed)")

/-- The status of a node that says how far it has come. -/
def statusOfProgress (progress : Json) : String :=
  match quantity? (progress.get? "currentBlock"), quantity? (progress.get? "highestBlock") with
  | some current, some highest => syncText current highest
  | _, _ => "Error: eth_syncing without block numbers"

/-- The status of a node that is at a block. -/
def statusOfHeight (height : Json) : String :=
  match quantity? height with
  | some 0 => "Waiting for sync"
  | some _ => readyText
  | none => s!"Error: unexpected eth_blockNumber result {height.render}"

/-- The status of a node of this stack that runs. It may say that it does not synchronise; then its
height decides. -/
def runningStatus (name : String) : Inquiry String := do
  match ← Inquiry.call "eth_syncing" with
  | .error _ => pure (waitingFor name)
  | .ok (.bool false) =>
    match ← Inquiry.call "eth_blockNumber" with
    | .error _ => pure (waitingFor name)
    | .ok height => pure (statusOfHeight height)
  | .ok other =>
    if other.isObject then pure (statusOfProgress other)
    else pure s!"Error: unexpected eth_syncing result {other.render}"

/-- The status of a node of this stack. -/
def nativeStatus (name : String) (base : Base) : Inquiry String :=
  if base.isRunning then runningStatus name else pure base.text

/-- The status of a node elsewhere. -/
def probedStatus (provider : Provider) (url : String) : Inquiry String := do
  match ← Inquiry.probe url with
  | .ok () => pure provider.texts.1
  | .error _ => pure provider.texts.2

/-- The status of an Ethereum node. -/
def status (around : Surroundings) (name chainId : String) (light : List String) :
    Inquiry String := do
  let base ← Inquiry.base
  if base = .disabled then pure base.text
  else
    match ← provider around chainId with
    | .error fault => pure s!"Error: {fault.message}"
    | .ok url =>
      match Provider.ofUrl light url with
      | .native => nativeStatus name base
      | other => probedStatus other url

end NodeStack.Service.Ethereum
