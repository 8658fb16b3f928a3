import NodeStack.Json.Lenient

/-!
# `NodeStack.Service.Lightning.Message`: what a lightning node tells about itself

- `Info`: the state of a node.
- `Info.json`: the state as a JSON value, every field given.
- `Info.ofJson`: the state from a JSON value, fields that are absent empty.
-/

set_option autoImplicit false

namespace NodeStack.Service.Lightning

/-- A chain a node works on. -/
structure Chain where
  chain : String
  network : String
  deriving Repr, DecidableEq

/-- The chain as a JSON value. -/
def Chain.json (c : Chain) : Json :=
  Json.ofMembers [("chain", .str c.chain), ("network", .str c.network)]

/-- The state of a lightning node. -/
structure Info where
  identityPubkey : String
  nickname : String
  pendingChannels : Nat
  activeChannels : Nat
  peers : Nat
  blockHeight : Nat
  blockHash : String
  syncedToChain : Bool
  testnet : Bool
  uris : List String
  bestHeaderTimestamp : Int
  version : String
  inactiveChannels : Nat
  chains : List Chain
  color : String
  syncedToGraph : Bool
  deriving Repr, DecidableEq

/-- The state as a JSON value. -/
def Info.json (i : Info) : Json :=
  Json.ofMembers
    [("identity_pubkey", .str i.identityPubkey), ("alias", .str i.nickname),
     ("num_pending_channels", Json.ofNat i.pendingChannels),
     ("num_active_channels", Json.ofNat i.activeChannels),
     ("num_peers", Json.ofNat i.peers), ("block_height", Json.ofNat i.blockHeight),
     ("block_hash", .str i.blockHash), ("synced_to_chain", .bool i.syncedToChain),
     ("testnet", .bool i.testnet), ("uris", Json.ofTexts i.uris),
     ("best_header_timestamp", Json.ofInt i.bestHeaderTimestamp),
     ("version", .str i.version), ("num_inactive_channels", Json.ofNat i.inactiveChannels),
     ("chains", .arr (i.chains.map Chain.json)), ("color", .str i.color),
     ("synced_to_graph", .bool i.syncedToGraph)]

/-- The chain that a JSON value describes. -/
def Chain.ofJson (v : Json) : Chain := ⟨v.textAt "chain", v.textAt "network"⟩

/-- The state that a JSON value describes; fields that are absent are empty. -/
def Info.ofJson (v : Json) : Info where
  identityPubkey := v.textAt "identity_pubkey"
  nickname := v.textAt "alias"
  pendingChannels := v.naturalAt "num_pending_channels"
  activeChannels := v.naturalAt "num_active_channels"
  peers := v.naturalAt "num_peers"
  blockHeight := v.naturalAt "block_height"
  blockHash := v.textAt "block_hash"
  syncedToChain := v.flagAt "synced_to_chain"
  testnet := v.flagAt "testnet"
  uris := v.textsAt "uris"
  bestHeaderTimestamp := v.integerAt "best_header_timestamp"
  version := v.textAt "version"
  inactiveChannels := v.naturalAt "num_inactive_channels"
  chains := (v.itemsAt "chains").map Chain.ofJson
  color := v.textAt "color"
  syncedToGraph := v.flagAt "synced_to_graph"

end NodeStack.Service.Lightning
