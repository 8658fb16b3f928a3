import NodeStack.Settings.Address
import NodeStack.Settings.Basic

/-!
# `NodeStack.Settings.Check`: which settings are acceptable

- `Fault`: what is wrong with settings, with its wording.
- `Settings.check`: the first thing wrong, if any.
-/

set_option autoImplicit false

namespace NodeStack.Settings

/-- What is wrong with settings. -/
inductive Fault where
  | bindAddress
  | unknownNetwork (name : String)
  | zeroTimeout
  | unknownService (name : String)
  | repeatedService (name : String)
  deriving Repr, DecidableEq

/-- The wording of a fault. -/
def Fault.message : Fault → String
  | .bindAddress => "Invalid bind_address"
  | .unknownNetwork name => s!"Unknown network '{name}'"
  | .zeroTimeout => "api_timeout_secs must be greater than zero"
  | .unknownService name => s!"Unknown service '{name}'"
  | .repeatedService name => s!"Service '{name}' configured twice"

/-- Checks the names of services one after the other: each is known and has not come before. -/
def checkNames : (seen : List String) → List String → Except Fault Unit
  | _, [] => .ok ()
  | seen, name :: rest =>
    if !knownServices.contains name then .error (.unknownService name)
    else if seen.contains name then .error (.repeatedService name)
    else checkNames (name :: seen) rest

/-- Checks settings: the address, the network, the timeout, and then the services. -/
def check (s : Settings) : Except Fault Unit :=
  if !Address.isSocketAddress s.bindAddress then .error .bindAddress
  else if !knownNetworks.contains s.network then .error (.unknownNetwork s.network)
  else if s.apiTimeout = 0 then .error .zeroTimeout
  else checkNames [] (s.services.map (·.name))

end NodeStack.Settings
