import NodeStack.Json.Tree
import NodeStack.Service.Command
import NodeStack.Service.Idle
import NodeStack.Service.Inquiry
import NodeStack.Service.Progress
import NodeStack.Service.Swap.Currency

/-!
# `NodeStack.Service.Swap.Status`: the status of the swap service

- `isUp`: whether a node of the service is up, by what its command puts out.
- `status`: the status: ready when both nodes are up.
-/

set_option autoImplicit false

namespace NodeStack.Service.Swap

/-- The command that asks the node of a currency about itself. -/
def infoCommand (c : Currency) : List String := ["wrapper", c.name, "getinfo"]

/-- Whether an output is a JSON object. -/
def isObjectText (output : String) : Bool :=
  match Json.parse? output with
  | some value => value.isObject
  | none => false

/-- Whether a node is up: its command ended well and put out a JSON object. -/
def isUp : Except Engine.Fault Engine.ExecResult → Bool
  | .ok result => (outputOf result).toOption.any isObjectText
  | .error _ => false

/-- A node that is up or down. -/
def upText (up : Bool) : String := if up then "up" else "down"

/-- The status that goes with the two nodes. -/
def nodesText (btc ltc : Bool) : String :=
  if btc && ltc then readyText else s!"btc {upText btc}; ltc {upText ltc}"

/-- The status of the swap service. Nodes that do not answer in time are down. -/
def status (around : Surroundings) : Inquiry String := do
  let base ← Inquiry.base
  if base.isRunning then
    match ← Inquiry.commands (infoCommand .btc) (infoCommand .ltc) with
    | some (btc, ltc) => pure (nodesText (isUp btc) (isUp ltc))
    | none => pure (nodesText false false)
  else pure (idleText around.isSetup base)

end NodeStack.Service.Swap
