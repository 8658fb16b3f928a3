import NodeStack.Engine.Interface
import NodeStack.Service.Fault
import NodeStack.Text.Blank

/-!
# `NodeStack.Service.Command`: commands in the container of a service

- `outputOf`: what a command put out, if it ended well.
-/

set_option autoImplicit false

namespace NodeStack.Service

/-- What a command put out. A command that ended with another code than zero is a fault, told with
its output without the blanks around it. -/
def outputOf (r : Engine.ExecResult) : Except Fault String :=
  if r.success then .ok r.output else .error (.commandFailed r.exitCode (Text.trim r.output))

end NodeStack.Service
