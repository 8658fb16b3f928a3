import NodeStack.Engine.Container

/-!
# `NodeStack.Service.Base`: what the container of a service says about the service

- `Handle`: the container of a service, and whether and how it is meant to run.
- `Base`: what the latest record of the container says, with its text.
- `Handle.base`: which of the cases a record, or its absence, is.
-/

set_option autoImplicit false

namespace NodeStack.Service

/-- The container of a service. -/
structure Handle where
  /-- The container's name. -/
  container : String
  /-- The service is not meant to run here. -/
  disabled : Bool
  /-- How the service is provided; empty for the usual way. -/
  mode : String
  deriving Repr, DecidableEq

/-- What the container of a service says about it. -/
inductive Base where
  /-- There is no container, and none is wanted. -/
  | disabled
  /-- There is no container. -/
  | missing
  /-- There is a container and it does not run. -/
  | stopped (state : String)
  /-- The container runs. -/
  | running (record : Engine.Record)
  deriving Repr, DecidableEq

namespace Base

/-- Whether the container runs. -/
def isRunning : Base → Bool
  | .running _ => true
  | _ => false

/-- The status text of a service of which nothing but the container is known. -/
def text : Base → String
  | .disabled => "Disabled"
  | .missing => "Container missing"
  | .stopped state => s!"Container {state}"
  | .running _ => "Container running"

end Base

namespace Handle

/-- Whether nobody wants a container: the service is disabled, and not provided in another way. -/
def unwanted (h : Handle) : Bool :=
  h.disabled && (h.mode == "" || h.mode == "native")

/-- What the latest record says, or that there is none. -/
def base (h : Handle) : Option Engine.Record → Base
  | none => if h.unwanted then .disabled else .missing
  | some record => if record.isRunning then .running record else .stopped record.state

end Handle

end NodeStack.Service
