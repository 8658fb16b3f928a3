import NodeStack.Engine.Container
import NodeStack.Table

/-!
# `NodeStack.Engine.Watch`: the latest record of a container, and who waits for the next

- `Want`: what a wait is for; `Want.metBy` says which records end it.
- `Watch`: the latest record, the waiters, and the records handed to waits.
- `Watch.update`: a new record, or none; each waiter whose want it meets is handed the record.
- `Watch.await`, `Watch.poll`, `Watch.drop`: begin a wait, look at it again, give it up.

A wait that cannot end at once holds a ticket. What ended it is kept under the ticket until the
wait looks, so later records do not change it.
-/

set_option autoImplicit false

namespace NodeStack.Engine

/-- What a wait is for. -/
inductive Want where
  /-- Any record. -/
  | record
  /-- A running container. -/
  | running
  /-- A running container other than the given one, or started at another time. -/
  | restarted (id : String) (startedAt : Option Time.Stamp)
  deriving Repr, DecidableEq

/-- Whether a record ends a wait. -/
def Want.metBy : Want → Record → Bool
  | .record, _ => true
  | .running, r => r.isRunning
  | .restarted id startedAt, r => r.isRunning && (r.id != id || r.startedAt != startedAt)

/-- The wait for a restart of the container that `previous` describes. -/
def Want.restartOf (previous : Record) : Want := .restarted previous.id previous.startedAt

/-- A registered wait. -/
structure Waiter where
  ticket : Nat
  want : Want
  deriving Repr, DecidableEq

/-- Where a wait stands that holds a ticket. -/
inductive Wait where
  /-- It waits. -/
  | waiting
  /-- It has been handed a record and has not looked yet. -/
  | handed (record : Record)
  deriving Repr, DecidableEq

/-- The latest record of a container, and the waits for the next. -/
structure Watch where
  /-- The container's name. -/
  name : String
  /-- The latest record; none if there is no such container. -/
  current : Option Record
  /-- The registered waits, in order of registration. -/
  waiters : List Waiter
  /-- The waits that are neither over nor given up. -/
  waits : Table Wait
  /-- The next ticket. -/
  next : Nat

namespace Watch

/-- A watch that has seen no record. -/
def ofName (name : String) : Watch := ⟨name, none, [], Table.empty, 0⟩

/-- Whether the wait with that ticket has not been given up. -/
def alive (w : Watch) (ticket : Nat) : Bool := (w.waits.get? ticket).isSome

/-- Hands a record to the waiters it satisfies. -/
def hand (record : Record) (waits : Table Wait) (waiters : List Waiter) : Table Wait :=
  waiters.foldl
    (fun t waiter => if waiter.want.metBy record then t.set waiter.ticket (.handed record) else t)
    waits

/-- Takes in a new record, or none. Waiters that gave up are struck off; those the record satisfies
are handed it and struck off. -/
def update (record : Option Record) (w : Watch) : Watch :=
  let live := w.waiters.filter fun waiter => w.alive waiter.ticket
  match record with
  | none => { w with current := none, waiters := live }
  | some r =>
    { w with
      current := some r
      waiters := live.filter fun waiter => !waiter.want.metBy r
      waits := hand r w.waits live }

/-- Whether the container runs, by the latest record. -/
def isRunning (w : Watch) : Bool :=
  match w.current with
  | some r => r.isRunning
  | none => false

/-- The id of the container, by the latest record. -/
def containerId (w : Watch) : Option String := w.current.map (·.id)

/-- Registers a wait. -/
def register (want : Want) (w : Watch) : Nat × Watch :=
  (w.next,
    { w with
      waiters := w.waiters ++ [⟨w.next, want⟩]
      waits := w.waits.set w.next .waiting
      next := w.next + 1 })

/-- Begins a wait: it ends at once if the latest record meets the want, else it holds a ticket. -/
def await (want : Want) (w : Watch) : (Record ⊕ Nat) × Watch :=
  match w.current with
  | some r =>
    if want.metBy r then (.inl r, w)
    else let (ticket, w) := w.register want; (.inr ticket, w)
  | none => let (ticket, w) := w.register want; (.inr ticket, w)

/-- Looks at a wait again: the record it was handed, which ends it, or nothing yet. -/
def poll (ticket : Nat) (w : Watch) : Option Record × Watch :=
  match w.waits.get? ticket with
  | some (.handed r) => (some r, { w with waits := w.waits.erase ticket })
  | _ => (none, w)

/-- Gives a wait up. -/
def drop (ticket : Nat) (w : Watch) : Watch :=
  { w with waits := w.waits.erase ticket }

end Watch

end NodeStack.Engine
