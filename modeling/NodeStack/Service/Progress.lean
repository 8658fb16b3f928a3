import NodeStack.Decimal.Fixed

/-!
# `NodeStack.Service.Progress`: how far a service has synchronised

- `percent`: the share of blocks already there.
- `progressText`, `syncText`: its text; `Ready` once all blocks are there.
- `waitingFor`: the text of a service that does not answer yet.
-/

set_option autoImplicit false

namespace NodeStack.Service

/-- The text of a service that is ready. -/
def readyText : String := "Ready"

/-- `current` of `total` in percent, by one rounded division and one rounded multiplication; nothing
of nothing is zero. -/
def percent (current total : Nat) : Float :=
  if total = 0 then 0.0
  else (UInt64.ofNat current).toFloat / (UInt64.ofNat total).toFloat * 100.0

/-- Whether all blocks are there: there are some, and none is missing. -/
def complete (current total : Nat) : Bool :=
  0 < total && current == total

/-- How far a service has come, both counts below `2 ^ 64`. -/
def progressText (current total : Nat) : String :=
  if complete current total then readyText
  else s!"{Decimal.fixed (percent current total) 2}% ({current}/{total})"

/-- The status of a service that synchronises. -/
def syncText (current total : Nat) : String :=
  if complete current total then readyText else s!"Syncing {progressText current total}"

/-- The status of a service that does not answer yet. -/
def waitingFor (name : String) : String :=
  s!"Waiting for {name} to come up..."

end NodeStack.Service
