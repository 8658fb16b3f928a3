import NodeStack.Dict
import NodeStack.Json.Basic
import NodeStack.Time.Stamp

/-!
# `NodeStack.Engine.Container`: what is known of a container

- `Phase`: the stages of a container's life.
- `Record`: a container as the engine described it.
-/

set_option autoImplicit false

namespace NodeStack.Engine

/-- The stages of a container's life. -/
inductive Phase where
  | created
  | running
  | exited
  deriving Repr, DecidableEq

namespace Phase

/-- The phase of a state as the engine names it; a state of no other phase counts as exited. -/
def ofState (state : String) : Phase :=
  if state = "created" then .created
  else if state = "running" then .running
  else .exited

/-- The name of a phase. -/
def name : Phase → String
  | .created => "created"
  | .running => "running"
  | .exited => "exited"

end Phase

/-- A container as the engine described it. -/
structure Record where
  id : String
  name : String
  /-- The state, as the engine names it. -/
  state : String
  /-- When the container was last started. -/
  startedAt : Option Time.Stamp
  /-- The environment variables. -/
  env : Dict String
  deriving Repr, DecidableEq

namespace Record

/-- The phase a container is in. -/
def phase (r : Record) : Phase := Phase.ofState r.state

/-- Whether the container runs. -/
def isRunning (r : Record) : Bool := r.phase == .running

/-- The value of an environment variable. -/
def getenv (r : Record) (key : String) : Option String := r.env.get? key

/-- The record as a JSON value. -/
def json (r : Record) : Json :=
  Json.ofMembers
    [("id", .str r.id), ("name", .str r.name), ("state", .str r.state),
     ("phase", .str r.phase.name),
     ("started_at", Json.ofText? (r.startedAt.map Time.Stamp.text)),
     ("env", Json.ofMembers (r.env.map fun (k, v) => (k, .str v)))]

end Record

end NodeStack.Engine
