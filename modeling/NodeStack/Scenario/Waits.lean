import NodeStack.Engine.Watch

/-!
# `NodeStack.Scenario.Waits`: a watch whose waits have names

- `Waits`: a watch, and the ticket behind each name.
- `Waits.await`, `Waits.poll?`, `Waits.drop`: begin a wait, look at it again, give it up.

A name that is given again stands for the newer wait, and the older one is given up.
-/

set_option autoImplicit false

namespace NodeStack.Scenario

open Engine (Record Want Watch)

/-- A watch, and the ticket behind each name. -/
structure Waits where
  watch : Watch
  tickets : Dict Nat

namespace Waits

/-- A watch without waits. -/
def ofName (name : String) : Waits := ⟨Watch.ofName name, []⟩

/-- Takes in a new record, or none. -/
def update (record : Option Record) (w : Waits) : Waits :=
  { w with watch := w.watch.update record }

/-- Begins a wait: the record that ends it at once, or nothing yet. -/
def await (name : String) (want : Want) (w : Waits) : Option Record × Waits :=
  match w.watch.await want with
  | (.inl record, watch) => (some record, { w with watch := watch })
  | (.inr ticket, watch) =>
    let watch := ((w.tickets.get? name).map watch.drop).getD watch
    (none, ⟨watch, w.tickets.put name ticket⟩)

/-- Looks at a wait again, if there is one of that name: the record that ends it, or nothing yet. -/
def poll? (name : String) (w : Waits) : Option (Option Record) × Waits :=
  match w.tickets.get? name with
  | none => (none, w)
  | some ticket =>
    match w.watch.poll ticket with
    | (some record, watch) => (some (some record), ⟨watch, w.tickets.remove name⟩)
    | (none, watch) => (some none, { w with watch := watch })

/-- Gives a wait up; whether there is one of that name. -/
def drop (name : String) (w : Waits) : Bool × Waits :=
  match w.tickets.get? name with
  | none => (false, w)
  | some ticket => (true, ⟨w.watch.drop ticket, w.tickets.remove name⟩)

end Waits

end NodeStack.Scenario
