import NodeStack.Service.Fault

/-!
# `NodeStack.Stack.Fault`: what can go wrong with the stack as a whole

- `Fault`: the causes.
- `Fault.message`, `Fault.kind`: their wording and their names.
-/

set_option autoImplicit false

namespace NodeStack.Stack

/-- Why an operation on the stack failed. -/
inductive Fault where
  /-- Two services have the same name. -/
  | duplicate (name : String)
  /-- No service has that name. -/
  | notFound (name : String)
  /-- A service could not be closed. -/
  | close (name : String) (cause : Service.Fault)
  deriving Repr, DecidableEq

/-- The wording of a fault. -/
def Fault.message : Fault → String
  | .duplicate name => s!"Duplicate service: {name}"
  | .notFound name => s!"Service not found: {name}"
  | .close name cause => s!"Failed to close {name}: {cause.message}"

/-- The name of the kind of a fault. -/
def Fault.kind : Fault → String
  | .duplicate _ => "DuplicateService"
  | .notFound _ => "ServiceNotFound"
  | .close .. => "Close"

end NodeStack.Stack
