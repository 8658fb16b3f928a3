import NodeStack.Engine.Fault

/-!
# `NodeStack.Engine.Event`: news from the engine

- `EventKind`: what can happen to a container.
- `Event`: what happened to which container.
- `Finding`: what a reader of events finds.
-/

set_option autoImplicit false

namespace NodeStack.Engine

/-- What can happen to a container. -/
inductive EventKind where
  | created
  | started
  | died
  | destroyed
  deriving Repr, DecidableEq

namespace EventKind

/-- The kind of an action as the engine names it; other actions are of no interest. -/
def ofAction? (action : String) : Option EventKind :=
  if action = "create" then some .created
  else if action = "start" then some .started
  else if action = "die" then some .died
  else if action = "destroy" then some .destroyed
  else none

/-- The actions the engine is asked to report. -/
def actions : List String := ["create", "start", "die", "destroy"]

/-- The name of a kind. -/
def name : EventKind → String
  | .created => "Created"
  | .started => "Started"
  | .died => "Died"
  | .destroyed => "Destroyed"

end EventKind

/-- What happened to which container. -/
structure Event where
  /-- The container's id. -/
  id : String
  /-- The container's name, where the engine gives it. -/
  name : Option String
  kind : EventKind
  deriving Repr, DecidableEq

/-- What a reader of events finds. -/
inductive Finding where
  | item (item : Except Fault Event)
  /-- Nothing yet. -/
  | nothing
  /-- The end of the stream. -/
  | ended

end NodeStack.Engine
