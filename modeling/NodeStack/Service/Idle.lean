import NodeStack.Service.Base

/-!
# `NodeStack.Service.Idle`: the status of a service that does not run yet

- `idleText`: what the container says; while the setup is under way a service that is wanted waits.
-/

set_option autoImplicit false

namespace NodeStack.Service

/-- The status of a service that waits for the chains to synchronise. -/
def waitingText : String := "Waiting for sync"

/-- The status of a service that does not run. -/
def idleText (isSetup : Bool) (base : Base) : String :=
  if isSetup && base != .disabled then waitingText else base.text

end NodeStack.Service
