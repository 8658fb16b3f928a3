import NodeStack.Table
import NodeStack.Upstream.Fault

/-!
# `NodeStack.Link.Basic`: a connection that is kept up

- `Link`: the target, the client in use, and the loops that dial.
- `Link.open_`, `Link.beginClose`, `Link.endClose`, `Link.retarget`: what callers do.
- `Link.dialled`, `Link.refused`, `Link.crashed`, `Link.broke`, `Link.rested`, `Link.stop`: what
  happens to a loop.

A loop dials its target. When that succeeds the client is published until the link breaks, and the
loop dials again at once; when it fails the loop rests first. A loop that is told to stop clears the
client and ends at its next chance.
-/

set_option autoImplicit false

namespace NodeStack

namespace Link

/-- Where a loop stands. -/
inductive Phase where
  /-- It has not begun. -/
  | ready
  /-- It dials. -/
  | dialling
  /-- It holds a live link. -/
  | linked (client : Nat)
  /-- It rests until a point in time. -/
  | resting (wake : Nat)
  /-- It has ended. -/
  | ended
  /-- It has crashed. -/
  | crashed
  deriving Repr, DecidableEq

/-- A loop that keeps the connection up. -/
structure Loop where
  target : String
  phase : Phase
  /-- It has been told to stop. -/
  told : Bool
  deriving Repr, DecidableEq

/-- Whether a loop is over. -/
def Loop.finished (l : Loop) : Bool :=
  match l.phase with
  | .ended | .crashed => true
  | _ => false

end Link

open Link in
/-- A connection that is kept up. -/
structure Link where
  name : String
  /-- How long a loop rests after a failure. -/
  retryDelay : Nat
  /-- What new loops dial. -/
  target : String
  /-- The client in use. -/
  client : Option Nat
  /-- How many clients have been published. -/
  generation : Nat
  /-- The loop that is in charge. -/
  worker : Option Nat
  /-- Every loop there ever was. -/
  loops : Table Loop
  /-- How many loops there have been. -/
  count : Nat

namespace Link

/-- A connection that nobody has opened. -/
def create (name target : String) (retryDelay : Nat) : Link :=
  ⟨name, retryDelay, target, none, 0, none, Table.empty, 0⟩

/-- Whether a client is in use. -/
def isConnected (k : Link) : Bool := k.client.isSome

/-- Moves a loop on. -/
def setPhase (n : Nat) (phase : Phase) (k : Link) : Link :=
  match k.loops.get? n with
  | some l => { k with loops := k.loops.set n { l with phase := phase } }
  | none => k

/-- Where a loop stands. -/
def phase (n : Nat) (k : Link) : Option Phase := (k.loops.get? n).map (·.phase)

/-- Whether the loop is over, as is one that never was. -/
def finished (n : Nat) (k : Link) : Bool :=
  match k.loops.get? n with
  | some l => l.finished
  | none => true

/-- Whether a loop is in charge and not over. -/
def working (k : Link) : Bool :=
  match k.worker with
  | some n => !k.finished n
  | none => false

/-! ### Callers -/

/-- Puts a new loop in charge, unless one is at work. -/
def open_ (k : Link) : Link :=
  if k.working then k
  else
    { k with
      worker := some k.count
      loops := k.loops.set k.count ⟨k.target, .ready, false⟩
      count := k.count + 1 }

/-- Begins to close: the loop in charge is told to stop and is no longer in charge. The loop to wait
for, if there is one. -/
def beginClose (k : Link) : Option Nat × Link :=
  match k.worker with
  | none => (none, k)
  | some n =>
    match k.loops.get? n with
    | some l => (some n, { k with worker := none, loops := k.loops.set n { l with told := true } })
    | none => (none, { k with worker := none })

/-- Ends a close, once the loop waited for is over: no client is in use then. It is a fault if that
loop has crashed. -/
def endClose (awaited : Option Nat) (k : Link) : Except Upstream.LinkFault Unit × Link :=
  let crashed := awaited.bind k.phase == some .crashed
  (if crashed then .error (.worker s!"{k.name} connection loop panicked") else .ok (),
    { k with client := none })

/-- Sets the target of later loops. -/
def retarget (target : String) (k : Link) : Link := { k with target := target }

/-! ### Loops -/

/-- A loop begins to dial. -/
def dial (n : Nat) (k : Link) : Link := k.setPhase n .dialling

/-- A dial succeeds: the client is published. -/
def dialled (n client : Nat) (k : Link) : Link :=
  { k.setPhase n (.linked client) with
    client := some client
    generation := k.generation + 1 }

/-- A dial fails at the time `now`: the loop rests. -/
def refused (n now : Nat) (k : Link) : Link := k.setPhase n (.resting (now + k.retryDelay))

/-- A loop crashes. -/
def crashed (n : Nat) (k : Link) : Link := k.setPhase n .crashed

/-- The live link of a loop breaks: the client is taken back and the loop dials again. -/
def broke (n : Nat) (k : Link) : Link := { k.setPhase n .ready with client := none }

/-- A loop has rested. -/
def rested (n : Nat) (k : Link) : Link := k.setPhase n .ready

/-- A loop that was told to stop does so: the client is taken back. -/
def stop (n : Nat) (k : Link) : Link := { k.setPhase n .ended with client := none }

end Link

end NodeStack
