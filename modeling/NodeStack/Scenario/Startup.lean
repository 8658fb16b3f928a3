import NodeStack.Boot
import NodeStack.Scenario.CannedEngine
import NodeStack.Scenario.World.Basic

/-!
# `NodeStack.Scenario.Startup`: a gateway that starts among prepared answers

- `Startup.talk`: starts a gateway, and asks the engine about the container of every service.
- `Startup.world`: the stack of the gateway, with the containers that the engine knows.
-/

set_option autoImplicit false

namespace NodeStack.Scenario.Startup

/-- What the engine says about a container. -/
abbrev Finding := Except Engine.Fault (Option Engine.Record)

/-- Asks the engine about containers, one after the other. -/
def inspectAll : List String → Engine.Talk (List (String × Finding))
  | [] => pure []
  | container :: rest => do
    let finding ← Engine.inspect container
    let findings ← inspectAll rest
    pure ((container, finding) :: findings)

/-- A gateway that has started: its settings, its services, and what the engine says about their
containers. -/
structure Gateway where
  settings : Settings
  registry : Stack.Registry
  findings : List (String × Finding)

/-- Starts a gateway, and asks the engine about the container of every service. -/
def talk (s : Boot.Surrounding) : Engine.Talk (Except Boot.Fault Gateway) := do
  match ← Boot.start s with
  | .error fault => pure (.error fault)
  | .ok (settings, registry) =>
    let findings ← inspectAll (registry.services.map (·.handle.container))
    pure (.ok ⟨settings, registry, findings⟩)

/-- An engine that says about a container what has been found. -/
def take (e : StagedEngine) (found : String × Finding) : StagedEngine :=
  match found with
  | (container, .ok (some record)) => e.add { record with name := container }
  | (_, .ok none) => e
  | (container, .error fault) => e.hold .inspect container (some ⟨0, .fails fault⟩)

/-- The stack of a gateway, with the containers that the engine knows. -/
def world (disk : Disk) (g : Gateway) : World :=
  let world := World.ofRegistry (1000 * g.settings.apiTimeout) g.registry disk true none
  { world with engine := g.findings.foldl take world.engine }

end NodeStack.Scenario.Startup
