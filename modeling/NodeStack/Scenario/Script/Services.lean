import NodeStack.Scenario.Disk
import NodeStack.Scenario.Script.Bytes
import NodeStack.Service.Ethereum.Provider
import NodeStack.Stack.Assembly

/-!
# `NodeStack.Scenario.Script.Services`: services that a script sets up one by one

- `service`: a service, from its kind, its name and what goes with the kind.
- `serviceFiles`: the files that it needs.

The files stand in one directory.
-/

set_option autoImplicit false

namespace NodeStack.Scenario.Script

/-- What an understudy does when it is asked for its status. -/
def act (j : Json) : Service.Act :=
  match j.textAt "behaviour" with
  | "hang" => .never
  | "panic_str" => .crash (some "boom")
  | "panic_string" => .crash (some (j.textAt "message"))
  | "panic_other" => .crash none
  | _ => .answer (j.naturalAt "delay_ms") ((j.get? "message").text?.getD "Ready")

/-- The Ethereum nodes for light use: a list, or the name of a network. -/
def lightNodes (j : Json) : List String :=
  match j.get? "light" with
  | .str network => Stack.lightNodes network
  | _ => j.textsAt "light"

/-- What a service does. -/
def kind (directory : String) (j : Json) : Service.Kind :=
  match j.textAt "kind" with
  | "bitcoind" => .chain (j.textAt "l2")
  | "geth" => .ethereum ((j.get? "chain_id").text?.getD "4") (lightNodes j)
  | "lnd" =>
    .lightning ((j.get? "chain").text?.getD "bitcoin")
      (Stack.below directory (j.textAt "name" ++ ".conf"))
  | "connext" => .channels
  | "opendexd" => .trading (Stack.below directory "nodekey.dat")
  | "boltz" => .swap
  | "arby" => .plain .arby
  | "webui" => .plain .webui
  | "proxy" => .plain .proxy
  | _ => .understudy (act j) (j.textAt "behaviour" == "fail_close")

/-- A service on a network. -/
def service (directory network : String) (j : Json) : Service :=
  let name := j.textAt "name"
  let container := (j.get? "container").text?.getD (Stack.containerName network name)
  ⟨name, kind directory j, ⟨container, j.flagAt "disabled", j.textAt "mode"⟩⟩

/-- The settings of a lightning node, if it has any. -/
def conf? (j : Json) : Option (List UInt8) :=
  match (j.get? "conf_hex").text? with
  | some s => some (hex s)
  | none => (j.get? "conf").text?.map utf8

/-- The files that a service needs. -/
def serviceFiles (directory : String) (j : Json) : Disk :=
  match kind directory j with
  | .lightning _ path => (conf? j).toList.map fun content => (path, content)
  | .trading path => if j.flagAt "nodekey" then [(path, [])] else []
  | _ => []

end NodeStack.Scenario.Script
