import NodeStack.Engine.Event
import NodeStack.Engine.Fault
import NodeStack.Engine.Container
import NodeStack.Engine.Watch
import NodeStack.Plan
import NodeStack.Stack.Registry

/-!
# `NodeStack.Stack.Tracking`: keeping what is known of the containers up to date

- `Track`: the questions on the way: what the engine says, whose container has an id, and the order
  to take over a record.
- `refresh`: asks the engine about the container of a service and takes over what it says.
- `syncs`: refreshes every service.
- `handle`: what an event of the engine brings about.
- `latest?`, `holder?`, `takeOver`: the latest records, whose container has an id, and what it does
  to take over a record.

A container that is gone is recognised by its id, and by its name if no service has the id. Anything
else that happens to a container makes its service ask the engine anew.
-/

set_option autoImplicit false

namespace NodeStack.Stack

/-- A question on the way to knowing the containers. -/
inductive Track where
  /-- What the engine says about a container, by name or id. -/
  | inspect (name : String)
  /-- The first service whose container has that id, by the latest records. -/
  | holder (id : String)
  /-- To take over a record of the container of a service, or that there is none. -/
  | take (service : Nat) (record : Option Engine.Record)

/-- The type of the answers to a question. -/
def Track.Answer : Track → Type
  | .inspect _ => Except Engine.Fault (Option Engine.Record)
  | .holder _ => Option Nat
  | .take _ _ => Unit

/-- A procedure that follows the containers. -/
abbrev Tracking := Plan Track Track.Answer

/-- Takes over a record. -/
def take (service : Nat) (record : Option Engine.Record) : Tracking Unit :=
  .ask (.take service record) .done

/-- Asks the engine about the container of a service and takes over what it says. -/
def refresh (service : Nat) (container : String) : Tracking (Except Engine.Fault Unit) :=
  .ask (.inspect container) fun
    | .error fault => pure (.error fault)
    | .ok record => do
      take service record
      pure (.ok ())

/-- Refreshes a service, whether or not the engine answers. -/
def tryRefresh (service : Nat) (container : String) : Tracking Unit := do
  let _ ← refresh service container
  pure ()

/-- Refreshes the service at a place, if there is one. -/
def refreshAt (r : Registry) (service : Nat) : Tracking Unit :=
  match r.get? service with
  | some s => tryRefresh service s.handle.container
  | none => pure ()

/-- What refreshes every service, one procedure for each. -/
def syncs (r : Registry) : List (Tracking Unit) :=
  (List.range r.size).map (refreshAt r)

/-- Refreshes the service of a container, if it has one. -/
def refreshContainer (r : Registry) (container : String) : Tracking Unit :=
  match r.byContainer? container with
  | some service => refreshAt r service
  | none => pure ()

/-- Takes over that a container is gone. -/
def forget (r : Registry) (event : Engine.Event) : Tracking Unit :=
  .ask (.holder event.id) fun
    | some service => take service none
    | none =>
      match event.name.bind r.byContainer? with
      | some service => take service none
      | none => pure ()

/-- The name of the container of an event that does not give it, by what the engine says. -/
def refreshById (r : Registry) (id : String) : Tracking Unit :=
  .ask (.inspect id) fun
    | .ok (some record) => refreshContainer r record.name
    | _ => pure ()

/-- What an event brings about. -/
def handle (r : Registry) (event : Engine.Event) : Tracking Unit :=
  if event.kind = .destroyed then forget r event
  else
    match event.name with
    | some name => refreshContainer r name
    | none => refreshById r event.id

/-! ### The latest records -/

/-- The latest record of the container of a service. -/
def latest? (watches : Table Engine.Watch) (service : Nat) : Option Engine.Record :=
  (watches.get? service).bind (·.current)

/-- The first service whose container has that id, by the latest records. -/
def holder? (r : Registry) (watches : Table Engine.Watch) (id : String) : Option Nat :=
  (List.range r.size).find? fun i => (latest? watches i).any fun record => record.id == id

/-- Takes over a record of the container of a service. -/
def takeOver (service : Nat) (record : Option Engine.Record) (watches : Table Engine.Watch) :
    Table Engine.Watch :=
  match watches.get? service with
  | none => watches
  | some watch => watches.set service (watch.update record)

end NodeStack.Stack
