import NodeStack.Service.Lightning.Settings
import NodeStack.Service.Progress

/-!
# `NodeStack.Service.Chain.Status`: the status of a blockchain node

- `Mode`: where the node runs that is used.
- `mode`: the mode, from the settings of the lightning node that works with it.
- `status`: the status. Only a node of this stack is asked how far it has come.
-/

set_option autoImplicit false

namespace NodeStack.Service.Chain

/-- Where the node runs that is used. -/
inductive Mode where
  /-- In this stack. -/
  | native
  /-- Somewhere else. -/
  | external
  /-- Nowhere: the lightning node is a light client. -/
  | light
  deriving Repr, DecidableEq

/-- The part of an address before the port. -/
def hostOf (address : String) : String :=
  String.ofList (address.toList.takeWhile (· != ':'))

/-- The mode that goes with the address of a full node: native where the host bears the node's own
name. -/
def modeOfHost (backend address : String) : Mode :=
  if hostOf address = backend then .native else .external

/-- The mode, from the settings of a lightning node. -/
def modeOf (chain path : String) : Inquiry (Except Fault Mode) := do
  match ← Lightning.backend chain path with
  | .error fault => pure (.error fault)
  | .ok backend =>
    if backend = "bitcoind" || backend = "litecoind" then do
      let address ← Lightning.setting path s!"{backend}.rpchost"
      pure (address.map (modeOfHost backend))
    else if backend = "neutrino" then pure (.ok .light)
    else pure (.error (.malformed s!"unexpected backend: {backend}"))

/-- The mode of a blockchain node, by the lightning node that works with it. -/
def mode (around : Surroundings) (partner : String) : Inquiry (Except Fault Mode) :=
  match around.kindOf partner with
  | some (.lightning chain path) => modeOf chain path
  | _ => pure (.error (.sibling partner))

/-- The status that goes with what the node says about the chain. -/
def statusOfInfo (info : Json) : String :=
  match (info.get? "blocks").natural?, (info.get? "headers").natural? with
  | some blocks, some headers => syncText blocks headers
  | _, _ => "Error: getblockchaininfo without blocks/headers"

/-- The status of a node of this stack. -/
def nativeStatus (name : String) : Inquiry String := do
  let base ← Inquiry.base
  if base.isRunning then
    match ← Inquiry.call "getblockchaininfo" with
    | .ok info => pure (statusOfInfo info)
    | .error (.remote _ text) => pure text
    | .error _ => pure (waitingFor name)
  else pure base.text

/-- The status of a blockchain node. -/
def status (around : Surroundings) (name partner : String) : Inquiry String := do
  match ← mode around partner with
  | .ok .external => pure "Ready (connected to external)"
  | .ok .light => pure "Ready (light mode)"
  | .ok .native => nativeStatus name
  | .error fault => pure s!"Error: {fault.message}"

end NodeStack.Service.Chain
