import NodeStack.Stack.Fault
import NodeStack.Stack.Registry

/-!
# `NodeStack.Stack.Closing`: closing the services of a stack

- `closeFrom`: closes some services, one after the other.
- `closeAll`: closes all services of a registry.

A service that closes badly does not keep those behind it from being closed. The first of them
counts.
-/

set_option autoImplicit false

namespace NodeStack.Stack

variable {σ : Type} (close : Nat → σ → Option Service.Fault × σ)

/-- Closes some services, one after the other, the first of which is at the place `i`: what the
first that closes badly comes to, if there is one. -/
def closeFrom : (i : Nat) → List Service → σ → Option Fault × σ
  | _, [], s => (none, s)
  | i, service :: rest, s =>
    let (cause, s) := close i s
    let (later, s) := closeFrom (i + 1) rest s
    ((cause.map (.close service.name)).or later, s)

/-- Closes all services of a registry. -/
def closeAll (r : Registry) (s : σ) : Except Fault Unit × σ :=
  match closeFrom close 0 r.services s with
  | (some fault, s) => (.error fault, s)
  | (none, s) => (.ok (), s)

end NodeStack.Stack
