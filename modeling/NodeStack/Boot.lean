import NodeStack.Engine.Interface
import NodeStack.Settings.Check
import NodeStack.Settings.Layers
import NodeStack.Settings.LogFilter
import NodeStack.Stack.Assembly

/-!
# `NodeStack.Boot`: how a gateway starts

- `Fault`: what stands in the way of a start.
- `Surrounding`: what a gateway finds where it starts.
- `prepare`: the settings, and all that can be checked before the engine is asked.
- `start`: the settings and the services, once the engine has answered.
- `listen`: a gateway that has started listens at its address.

The first thing that is wrong ends the start, and only its kind is told.
-/

set_option autoImplicit false

namespace NodeStack.Boot

/-- What stands in the way of a start. -/
inductive Fault where
  | settings
  | check
  | logFilter
  /-- There is no socket of the engine. -/
  | socket
  /-- The engine does not answer. -/
  | engine
  | services
  | stack
  deriving Repr, DecidableEq

/-- The wording of a fault. -/
def Fault.message : Fault → String
  | .settings => "Failed to load configuration"
  | .check => "Configuration validation failed"
  | .logFilter => "Invalid log filter"
  | .socket => "Failed to create Docker client"
  | .engine => "Docker daemon is not reachable"
  | .services => "Failed to build service adapters"
  | .stack => "Failed to build fleet"

/-- What a gateway finds where it starts. -/
structure Surrounding where
  env : Dict String
  /-- The files of the working directory. -/
  read : String → Option (List UInt8)
  /-- Whether there is something at a path. -/
  holds : String → Bool

/-- The variable with a filter for the log. -/
def filterVariable : String := "RUST_LOG"

/-- Whether there is a filter for the log: that of the variable, or else that of the settings. -/
def hasFilter (env : Dict String) (s : Settings) : Bool :=
  ((env.get? filterVariable).map Settings.LogFilter.isFilter).getD false ||
    Settings.LogFilter.isFilter s.logLevel

/-- The settings, and all that can be checked before the engine is asked. -/
def prepare (s : Surrounding) : Except Fault Settings :=
  let env := Settings.surrounding s.read s.env
  match Settings.load s.read env with
  | .error _ => .error .settings
  | .ok settings =>
    match settings.check with
    | .error _ => .error .check
    | .ok () =>
      if !hasFilter env settings then .error .logFilter
      else if !s.holds (Engine.socketFile settings.engineSocket) then .error .socket
      else .ok settings

/-- The services of some settings. -/
def registryOf (settings : Settings) : Except Fault Stack.Registry :=
  match Stack.assemble? settings with
  | .error _ => .error .services
  | .ok services => (Stack.Registry.ofServices? services).mapError fun _ => .stack

/-- The settings and the services, once the engine has answered. -/
def start (s : Surrounding) : Engine.Talk (Except Fault (Settings × Stack.Registry)) :=
  match prepare s with
  | .error fault => pure (.error fault)
  | .ok settings => do
    match ← Engine.ping with
    | .error _ => pure (.error .engine)
    | .ok () => pure ((registryOf settings).map fun registry => (settings, registry))

/-- Whether a host is one that a gateway can listen at: all of its own, or itself. -/
def isHere (host : List Char) : Bool :=
  host = "0.0.0.0".toList || (Text.after? "127.".toList host).isSome ||
    (host.all ("[0:1]".toList.contains ·) && (host.filter (· = '1')).length ≤ 1 &&
      ((Text.after? "]1".toList host.reverse).isSome || !host.contains '1'))

/-- The host of an address: what stands before its last colon. -/
def hostOf (address : String) : List Char :=
  ((address.toList.reverse.dropWhile (· != ':')).drop 1).reverse

/-- Why a gateway that has started cannot serve. -/
inductive ListenFault where
  /-- The address is not one of this host. -/
  | address
  deriving Repr, DecidableEq

/-- The wording of a fault. -/
def ListenFault.message : ListenFault → String
  | .address => "Failed to bind to address"

/-- A gateway that has started listens at its address. -/
def listen (settings : Settings) : Except ListenFault Unit :=
  if isHere (hostOf settings.bindAddress) then .ok () else .error .address

end NodeStack.Boot
