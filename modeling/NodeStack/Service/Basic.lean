import NodeStack.Service.Base

/-!
# `NodeStack.Service.Basic`: the services of a stack

- `Kind`: what a service does, with what its status depends on.
- `Service`: a service by its name, its kind and its container.
-/

set_option autoImplicit false

namespace NodeStack

namespace Service

/-- Services whose container says everything about them. -/
inductive Plain where
  /-- The arbitrage bot. -/
  | arby
  /-- The web interface. -/
  | webui
  /-- The way in from outside, which is always ready. -/
  | proxy
  deriving Repr, DecidableEq

/-- The name of a plain kind. -/
def Plain.name : Plain → String
  | .arby => "Arby"
  | .webui => "Webui"
  | .proxy => "Proxy"

/-- How the status of an understudy goes. -/
inductive Act where
  /-- It answers after a while. -/
  | answer (delay : Nat) (text : String)
  /-- It never answers. -/
  | never
  /-- It breaks down, with a text or with something that is no text. -/
  | crash (text : Option String)
  deriving Repr, DecidableEq

/-- What a service does, with what its status depends on. -/
inductive Kind where
  /-- A blockchain node; its mode stands in the settings of the lightning node `partner`. -/
  | chain (partner : String)
  /-- An Ethereum node for a chain, given the nodes offered for light use. -/
  | ethereum (chainId : String) (light : List String)
  /-- A lightning node on a chain, with its settings file. -/
  | lightning (chain : String) (confPath : String)
  /-- The payment channel node. -/
  | channels
  /-- The trading daemon, with the file that exists once it has a wallet. -/
  | trading (keyPath : String)
  /-- The swap service. -/
  | swap
  | plain (kind : Plain)
  /-- An understudy that plays a service in a rehearsal. -/
  | understudy (act : Act) (failsToClose : Bool)
  deriving Repr, DecidableEq

end Service

/-- A service of a stack. -/
structure Service where
  name : String
  kind : Service.Kind
  handle : Service.Handle
  deriving Repr, DecidableEq

end NodeStack
