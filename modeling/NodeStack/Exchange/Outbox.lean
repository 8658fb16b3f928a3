import NodeStack.Exchange.Frame

/-!
# `NodeStack.Exchange.Outbox`: the bounded queue of outgoing frames

- `Outbox`: the frames put and not yet taken, the free places, and the calls that wait for one.
- `Outbox.enter`: a call asks for a place; `Outbox.put`: a call with a place puts its frame.
- `Outbox.take`: the oldest frame is taken, which frees a place.
- `Outbox.leave`: a call that waits, or has a place, gives up.
- `Outbox.shut`: nobody takes frames any more.

A freed place is given to the call that has waited longest.
-/

set_option autoImplicit false

namespace NodeStack.Exchange

/-- The queue of outgoing frames. -/
structure Outbox where
  /-- Places that nobody has. -/
  room : Nat
  /-- Calls that wait for a place, longest wait first. -/
  line : List Nat
  /-- Calls that have been given a place and have not put their frame yet. -/
  admitted : List Nat
  /-- Frames put and not yet taken, oldest first. -/
  frames : List Request
  /-- Somebody takes the frames. -/
  taken : Bool
  deriving Repr

namespace Outbox

/-- An empty queue with so many places. -/
def ofCapacity (capacity : Nat) : Outbox := ⟨capacity, [], [], [], true⟩

/-- Gives a place back: to the call that has waited longest, if one waits. -/
def free (o : Outbox) : Outbox :=
  match o.line with
  | [] => { o with room := o.room + 1 }
  | id :: rest => { o with line := rest, admitted := o.admitted ++ [id] }

/-- Whether the call has been given a place. -/
def hasPlace (o : Outbox) (id : Nat) : Bool := o.admitted.contains id

/-- A call asks for a place: it gets a free one, or waits. -/
def enter (id : Nat) (o : Outbox) : Outbox :=
  if 0 < o.room then { o with room := o.room - 1, admitted := o.admitted ++ [id] }
  else { o with line := o.line ++ [id] }

/-- A call that has a place puts its frame there. -/
def put (id : Nat) (frame : Request) (o : Outbox) : Outbox :=
  { o with admitted := o.admitted.filter (· != id), frames := o.frames ++ [frame] }

/-- A call gives up waiting, or gives back the place it has. -/
def leave (id : Nat) (o : Outbox) : Outbox :=
  if o.hasPlace id then free { o with admitted := o.admitted.filter (· != id) }
  else { o with line := o.line.filter (· != id) }

/-- Takes the oldest frame. -/
def take (o : Outbox) : Option Request × Outbox :=
  match o.frames with
  | [] => (none, o)
  | frame :: rest => (some frame, free { o with frames := rest })

/-- Takes so many frames. -/
def takeMany : (count : Nat) → Outbox → Outbox
  | 0, o => o
  | count + 1, o => takeMany count o.take.2

/-- Takes all frames. -/
def takeAll (o : Outbox) : List Request × Outbox :=
  (o.frames, takeMany o.frames.length o)

/-- Nobody takes frames any more; those in the queue are lost. -/
def shut (o : Outbox) : Outbox := { o with frames := [], taken := false }

end Outbox

end NodeStack.Exchange
