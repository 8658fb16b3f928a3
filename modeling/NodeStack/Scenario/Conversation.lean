import NodeStack.Exchange.Calls

/-!
# `NodeStack.Scenario.Conversation`: an exchange whose calls have names

- `Conversation`: an exchange, and the call behind each name.
- `Conversation.send`, `Conversation.poll?`, `Conversation.drop`: begin a call, look at it, give it
  up.

A name that is given again stands for the newer call, and the older one is given up, unless the
newer one fails at once.
-/

set_option autoImplicit false

namespace NodeStack.Scenario

open Exchange (Progress)

/-- An exchange, and the call behind each name. -/
structure Conversation where
  exchange : Exchange
  calls : Dict Nat

namespace Conversation

/-- Changes the exchange. -/
def onExchange {α : Type} (f : Exchange → α × Exchange) (c : Conversation) : α × Conversation :=
  let (a, x) := f c.exchange
  (a, { c with exchange := x })

/-- The names after a look at a call: one that is over loses its name. -/
def namesAfter (name : String) (id : Nat) (progress : Progress) (calls : Dict Nat) : Dict Nat :=
  match progress with
  | .answered _ | .failed _ => calls.remove name
  | _ => calls.put name id

/-- Begins a call, and gives its id with how far it comes at once. -/
def send (name method : String) (params : Json) (c : Conversation) :
    (Nat × Progress) × Conversation :=
  match c.exchange.start method params with
  | (id, .failed fault, x) => ((id.getD 0, .failed fault), { c with exchange := x })
  | (id, progress, x) =>
    let x := ((c.calls.get? name).map fun old => x.drop old).getD x
    ((id.getD 0, progress), ⟨x, namesAfter name (id.getD 0) progress c.calls⟩)

/-- Looks at a call, if there is one of that name. -/
def poll? (name : String) (c : Conversation) : Option (Nat × Progress) × Conversation :=
  match c.calls.get? name with
  | none => (none, c)
  | some id =>
    let (progress, x) := c.exchange.poll id
    (some (id, progress), ⟨x, namesAfter name id progress c.calls⟩)

/-- Gives a call up; whether there is one of that name. -/
def drop (name : String) (c : Conversation) : Bool × Conversation :=
  match c.calls.get? name with
  | none => (false, c)
  | some id => (true, ⟨c.exchange.drop id, c.calls.remove name⟩)

end Conversation

end NodeStack.Scenario
