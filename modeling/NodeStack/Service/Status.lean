import NodeStack.Service.Chain.Status
import NodeStack.Service.Channels.Status
import NodeStack.Service.Ethereum.Status
import NodeStack.Service.Lightning.Status
import NodeStack.Service.Swap.Status
import NodeStack.Service.Trading.Status

/-!
# `NodeStack.Service.Status`: the status of any service

- `plainStatus`: the status of a service whose container says everything.
- `Service.status`: the status of a service.
-/

set_option autoImplicit false

namespace NodeStack

namespace Service

/-- The status of a service whose container says everything. -/
def plainStatus (around : Surroundings) : Plain → Inquiry String
  | .proxy => pure readyText
  | .arby => do
    let base ← Inquiry.base
    pure (if base.isRunning then readyText else idleText around.isSetup base)
  | .webui => do
    let base ← Inquiry.base
    pure (if base.isRunning then readyText else base.text)

/-- The status of an understudy: its act, once its container runs. -/
def understudyStatus (act : Act) : Inquiry String := do
  let base ← Inquiry.base
  if base.isRunning then Inquiry.act act else pure base.text

end Service

open Service in
/-- The status of a service. -/
def Service.status (around : Surroundings) (s : Service) : Inquiry String :=
  match s.kind with
  | .chain partner => Chain.status around s.name partner
  | .ethereum chainId light => Ethereum.status around s.name chainId light
  | .lightning _ _ => Lightning.status s.name
  | .channels => Channels.status around
  | .trading keyPath => Trading.status around s.name keyPath
  | .swap => Swap.status around
  | .plain kind => plainStatus around kind
  | .understudy act _ => understudyStatus act

end NodeStack
