import NodeStack.Json.Basic

/-!
# `NodeStack.Service.Swap.Message`: what the swap service answers

- `Info`, `Deposit`, `Withdrawal`: the answers to its calls, each with its JSON value.
-/

set_option autoImplicit false

namespace NodeStack.Service.Swap

/-- What miners are paid for a swap and for a reverse swap. -/
structure MinerFees where
  normal : Nat
  reverse : Nat
  deriving Repr, DecidableEq

/-- The fees of a swap. -/
structure Fees where
  /-- The share of the amount, by the bits of a double. -/
  percentage : UInt64
  miner : Option MinerFees
  deriving Repr, DecidableEq

/-- The amounts that can be swapped. -/
structure Limits where
  minimal : Int
  maximal : Int
  deriving Repr, DecidableEq

/-- The terms of the service. -/
structure Info where
  fees : Option Fees
  limits : Option Limits
  deriving Repr, DecidableEq

/-- A deposit that was prepared. -/
structure Deposit where
  id : String
  address : String
  timeoutBlockHeight : Nat
  deriving Repr, DecidableEq

/-- A withdrawal that was prepared. -/
structure Withdrawal where
  id : String
  lockupAddress : String
  routingFeeMilliSat : Nat
  claimTransactionId : String
  deriving Repr, DecidableEq

/-- The terms as a JSON value. -/
def Info.json (i : Info) : Json :=
  let miner : Option MinerFees → Json
    | none => .null
    | some m => Json.ofMembers [("normal", Json.ofNat m.normal), ("reverse", Json.ofNat m.reverse)]
  let fees : Option Fees → Json
    | none => .null
    | some f =>
      Json.ofMembers [("percentage", .num (.double f.percentage)), ("miner", miner f.miner)]
  let limits : Option Limits → Json
    | none => .null
    | some l =>
      Json.ofMembers [("minimal", Json.ofInt l.minimal), ("maximal", Json.ofInt l.maximal)]
  Json.ofMembers [("fees", fees i.fees), ("limits", limits i.limits)]

/-- A deposit as a JSON value. -/
def Deposit.json (d : Deposit) : Json :=
  Json.ofMembers
    [("id", .str d.id), ("address", .str d.address),
     ("timeout_block_height", Json.ofNat d.timeoutBlockHeight)]

/-- A withdrawal as a JSON value. -/
def Withdrawal.json (w : Withdrawal) : Json :=
  Json.ofMembers
    [("id", .str w.id), ("lockup_address", .str w.lockupAddress),
     ("routing_fee_milli_sat", Json.ofNat w.routingFeeMilliSat),
     ("claim_transaction_id", .str w.claimTransactionId)]

end NodeStack.Service.Swap
