import NodeStack.Json.Lenient
import NodeStack.Service.Lightning.Message

/-!
# `NodeStack.Service.Trading.Message`: what the trading daemon tells

- `Info`: the daemon and the services it sees.
- `Balances`, `Created`, `Unlocked`: the answers to its calls.

Each has a JSON value with every field given; a part that is absent is `null`. Each is read from a
JSON value in which fields may be absent.
-/

set_option autoImplicit false

namespace NodeStack.Service.Trading

/-- How many orders are known, of others and of one's own. -/
structure Orders where
  peer : Nat
  own : Nat
  deriving Repr, DecidableEq

/-- A lightning node as the daemon sees it. -/
structure LightningView where
  status : String
  activeChannels : Nat
  inactiveChannels : Nat
  pendingChannels : Nat
  chains : List Lightning.Chain
  blockHeight : Nat
  uris : List String
  version : String
  nickname : String
  deriving Repr, DecidableEq

/-- The payment channel service as the daemon sees it. -/
structure ChannelsView where
  status : String
  isConnected : Bool
  address : String
  version : String
  chain : String
  deriving Repr, DecidableEq

/-- The state of the daemon. -/
structure Info where
  version : String
  nodePubKey : String
  uris : List String
  peers : Nat
  pairs : Nat
  orders : Option Orders
  /-- The lightning node of each currency. -/
  lightning : Dict LightningView
  nickname : String
  network : String
  pendingSwapHashes : List String
  channels : Option ChannelsView
  deriving Repr, DecidableEq

/-- The balance of one currency. -/
structure Balance where
  total : Nat
  channel : Nat
  pendingChannel : Nat
  inactiveChannel : Nat
  wallet : Nat
  unconfirmedWallet : Nat
  deriving Repr, DecidableEq

/-- The balance of each currency. -/
abbrev Balances := Dict Balance

/-- A node that was created. -/
structure Created where
  seedMnemonic : List String
  initializedLnds : List String
  initializedConnext : Bool
  deriving Repr, DecidableEq

/-- A node that was unlocked. -/
structure Unlocked where
  unlockedLnds : List String
  unlockedConnext : Bool
  lockedLnds : List String
  deriving Repr, DecidableEq

/-! ### As JSON values -/

/-- A part that may be absent. -/
def partJson {α : Type} (json : α → Json) : Option α → Json
  | none => .null
  | some a => json a

/-- The orders as a JSON value. -/
def Orders.json (o : Orders) : Json :=
  Json.ofMembers [("peer", Json.ofNat o.peer), ("own", Json.ofNat o.own)]

/-- The view of a lightning node as a JSON value. -/
def LightningView.json (l : LightningView) : Json :=
  Json.ofMembers
    [("status", .str l.status), ("channels_active", Json.ofNat l.activeChannels),
     ("channels_inactive", Json.ofNat l.inactiveChannels),
     ("channels_pending", Json.ofNat l.pendingChannels),
     ("chains", .arr (l.chains.map Lightning.Chain.json)),
     ("blockheight", Json.ofNat l.blockHeight), ("uris", Json.ofTexts l.uris),
     ("version", .str l.version), ("alias", .str l.nickname)]

/-- The view of the payment channel service as a JSON value. -/
def ChannelsView.json (c : ChannelsView) : Json :=
  Json.ofMembers
    [("status", .str c.status), ("is_connected", .bool c.isConnected),
     ("address", .str c.address), ("version", .str c.version), ("chain", .str c.chain)]

/-- The state of the daemon as a JSON value. -/
def Info.json (i : Info) : Json :=
  Json.ofMembers
    [("version", .str i.version), ("node_pub_key", .str i.nodePubKey),
     ("uris", Json.ofTexts i.uris), ("num_peers", Json.ofNat i.peers),
     ("num_pairs", Json.ofNat i.pairs), ("orders", partJson Orders.json i.orders),
     ("lnd", Json.ofMembers (i.lightning.map fun (k, l) => (k, l.json))),
     ("alias", .str i.nickname), ("network", .str i.network),
     ("pending_swap_hashes", Json.ofTexts i.pendingSwapHashes),
     ("connext", partJson ChannelsView.json i.channels)]

/-- A balance as a JSON value. -/
def Balance.json (b : Balance) : Json :=
  Json.ofMembers
    [("total_balance", Json.ofNat b.total), ("channel_balance", Json.ofNat b.channel),
     ("pending_channel_balance", Json.ofNat b.pendingChannel),
     ("inactive_channel_balance", Json.ofNat b.inactiveChannel),
     ("wallet_balance", Json.ofNat b.wallet),
     ("unconfirmed_wallet_balance", Json.ofNat b.unconfirmedWallet)]

/-- The balances as a JSON value. -/
def balancesJson (bs : Balances) : Json :=
  Json.ofMembers [("balances", Json.ofMembers (bs.map fun (k, b) => (k, b.json)))]

/-- A created node as a JSON value. -/
def Created.json (c : Created) : Json :=
  Json.ofMembers
    [("seed_mnemonic", Json.ofTexts c.seedMnemonic),
     ("initialized_lnds", Json.ofTexts c.initializedLnds),
     ("initialized_connext", .bool c.initializedConnext)]

/-- An unlocked node as a JSON value. -/
def Unlocked.json (u : Unlocked) : Json :=
  Json.ofMembers
    [("unlocked_lnds", Json.ofTexts u.unlockedLnds),
     ("unlocked_connext", .bool u.unlockedConnext),
     ("locked_lnds", Json.ofTexts u.lockedLnds)]

/-! ### From JSON values -/

/-- The orders that a JSON value describes. -/
def Orders.ofJson (v : Json) : Orders := ⟨v.naturalAt "peer", v.naturalAt "own"⟩

/-- The view of a lightning node that a JSON value describes. -/
def LightningView.ofJson (v : Json) : LightningView where
  status := v.textAt "status"
  activeChannels := v.naturalAt "channels_active"
  inactiveChannels := v.naturalAt "channels_inactive"
  pendingChannels := v.naturalAt "channels_pending"
  chains := (v.itemsAt "chains").map Lightning.Chain.ofJson
  blockHeight := v.naturalAt "blockheight"
  uris := v.textsAt "uris"
  version := v.textAt "version"
  nickname := v.textAt "alias"

/-- The view of the payment channel service that a JSON value describes. -/
def ChannelsView.ofJson (v : Json) : ChannelsView where
  status := v.textAt "status"
  isConnected := v.flagAt "is_connected"
  address := v.textAt "address"
  version := v.textAt "version"
  chain := v.textAt "chain"

/-- The values of some members; of two with one name the later counts. -/
def dictOf {α : Type} (read : Json → α) (members : List (String × Json)) : Dict α :=
  Dict.ofPairs (members.map fun (k, v) => (k, read v))

/-- The state that a JSON value describes. -/
def Info.ofJson (v : Json) : Info where
  version := v.textAt "version"
  nodePubKey := v.textAt "node_pub_key"
  uris := v.textsAt "uris"
  peers := v.naturalAt "num_peers"
  pairs := v.naturalAt "num_pairs"
  orders := (v.partAt "orders").map Orders.ofJson
  lightning := dictOf LightningView.ofJson (v.membersAt "lnd")
  nickname := v.textAt "alias"
  network := v.textAt "network"
  pendingSwapHashes := v.textsAt "pending_swap_hashes"
  channels := (v.partAt "connext").map ChannelsView.ofJson

/-- The balance that a JSON value describes. -/
def Balance.ofJson (v : Json) : Balance where
  total := v.naturalAt "total_balance"
  channel := v.naturalAt "channel_balance"
  pendingChannel := v.naturalAt "pending_channel_balance"
  inactiveChannel := v.naturalAt "inactive_channel_balance"
  wallet := v.naturalAt "wallet_balance"
  unconfirmedWallet := v.naturalAt "unconfirmed_wallet_balance"

/-- The balances that a JSON value describes. -/
def balancesOfJson (v : Json) : Balances := dictOf Balance.ofJson (v.membersAt "balances")

/-- The created node that a JSON value describes. -/
def Created.ofJson (v : Json) : Created :=
  ⟨v.textsAt "seed_mnemonic", v.textsAt "initialized_lnds", v.flagAt "initialized_connext"⟩

/-- The unlocked node that a JSON value describes. -/
def Unlocked.ofJson (v : Json) : Unlocked :=
  ⟨v.textsAt "unlocked_lnds", v.flagAt "unlocked_connext", v.textsAt "locked_lnds"⟩

end NodeStack.Service.Trading
