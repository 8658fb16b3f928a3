import NodeStack.Json.Tree
import NodeStack.Service.Fault

/-!
# `NodeStack.Service.Channels.Providers`: the Ethereum nodes of the payment channel service

- `providers?`: the address of the node of each chain, from the service's configuration.
- `provider?`: the address of the node of one chain.
-/

set_option autoImplicit false

namespace NodeStack.Service.Channels

/-- The environment variable with the service's configuration. -/
def configKey : String := "VECTOR_CONFIG"

/-- The address of the node of each chain. Chains whose address is no text are left out. -/
def providers? (raw : String) : Except Fault (Dict String) :=
  match Json.parse? raw with
  | none => .error (.malformed s!"{configKey}: {Json.unreadable}")
  | some config =>
    match (config.get? "chainProviders").members? with
    | none => .error (.malformed s!"{configKey} has no chainProviders")
    | some members =>
      .ok (members.filterMap fun (chain, url) => url.text?.map fun url => (chain, url))

/-- The address of the node of one chain. -/
def provider? (chains : Dict String) (chain : String) : Except Fault String :=
  match chains.get? chain with
  | some url => .ok url
  | none => .error (.malformed s!"no provider for chain {chain}")

end NodeStack.Service.Channels
