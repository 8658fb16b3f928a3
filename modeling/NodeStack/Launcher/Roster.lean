import NodeStack.Exchange.Calls

/-!
# `NodeStack.Launcher.Roster`: the launchers that are attached

- `Roster`: a session for every launcher that ever attached, and which of them are attached.
- `Roster.register`, `Roster.remove`: a launcher comes and goes.
- `Roster.first`: the session that has been attached longest.

Sessions are numbered from one and no number is used twice. A session that was removed is closed,
and stays in the roster for those who still hold it.
-/

set_option autoImplicit false

namespace NodeStack.Launcher

/-- The launchers. -/
structure Roster where
  /-- The sessions attached, oldest first. -/
  attached : List Nat
  /-- Every session there ever was. -/
  sessions : Table Exchange
  /-- How many sessions there have been. -/
  count : Nat

namespace Roster

/-- No launchers. -/
def empty : Roster := ⟨[], Table.empty, 0⟩

/-- Attaches a launcher whose outbox has so many places, and gives its session. -/
def register (capacity : Nat) (r : Roster) : Nat × Roster :=
  let id := r.count + 1
  (id,
    { attached := r.attached ++ [id]
      sessions := r.sessions.set id (Exchange.ofCapacity capacity (.listening []))
      count := id })

/-- Changes the exchange of a session. -/
def onSession {α : Type} (id : Nat) (default : α) (f : Exchange → α × Exchange) (r : Roster) :
    α × Roster :=
  match r.sessions.get? id with
  | none => (default, r)
  | some x =>
    let (a, x) := f x
    (a, { r with sessions := r.sessions.set id x })

/-- Changes the exchange of a session, without a result. -/
def modify (id : Nat) (f : Exchange → Exchange) (r : Roster) : Roster :=
  (r.onSession id () fun x => ((), f x)).2

/-- Detaches a launcher and closes its session. -/
def remove (id : Nat) (r : Roster) : Roster :=
  if r.attached.contains id then
    { r with attached := r.attached.filter (· != id) }.modify id Exchange.close
  else r

/-- The session that has been attached longest. -/
def first (r : Roster) : Option Nat := r.attached.head?

/-- How many launchers are attached. -/
def size (r : Roster) : Nat := r.attached.length

end Roster

end NodeStack.Launcher
