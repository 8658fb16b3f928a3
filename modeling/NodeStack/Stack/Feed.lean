import NodeStack.Engine.Event
import NodeStack.Engine.Fault

/-!
# `NodeStack.Stack.Feed`: following the engine's events

- `Feed`: where the follower stands, and how long it pauses when a stream of events ends.
- `Feed.subscribed`, `Feed.synced`, `Feed.received`, `Feed.handled`, `Feed.endStream`, `Feed.woken`,
  `Feed.stop`: what happens to it.

The follower subscribes, brings everything up to date, and then handles the events one by one. When
the stream ends or fails it pauses and subscribes anew. The pause doubles from stream to stream up
to a limit; a stream that brought an event makes the next pause short again.
-/

set_option autoImplicit false

namespace NodeStack.Stack

namespace Feed

/-- Where the follower stands. -/
inductive Phase where
  /-- It is about to subscribe. -/
  | subscribing
  /-- It brings everything up to date. -/
  | syncing
  /-- It waits for the next event. -/
  | listening
  /-- It handles an event. -/
  | handling (event : Engine.Event)
  /-- It pauses until a point in time. -/
  | pausing (wake : Nat)
  /-- It has ended. -/
  | ended
  /-- It broke down. -/
  | crashed
  deriving Repr, DecidableEq

/-- The shortest pause, in seconds. -/
def shortest : Nat := 1

/-- The longest pause, in seconds. -/
def longest : Nat := 30

end Feed

/-- A follower of the engine's events. -/
structure Feed where
  phase : Feed.Phase
  /-- How long the next pause is, in seconds, unless the stream brings an event. -/
  pause : Nat
  /-- The stream has brought an event. -/
  delivered : Bool
  deriving Repr, DecidableEq

namespace Feed

/-- A follower that has not begun. -/
def start : Feed := ⟨.subscribing, shortest, false⟩

/-- Whether the follower is over. -/
def isOver (f : Feed) : Bool :=
  match f.phase with
  | .ended | .crashed => true
  | _ => false

/-- It has subscribed. -/
def subscribed (f : Feed) : Feed := { f with phase := .syncing, delivered := false }

/-- Everything is up to date. -/
def synced (f : Feed) : Feed := { f with phase := .listening }

/-- An event comes. -/
def received (event : Engine.Event) (f : Feed) : Feed :=
  { f with phase := .handling event, delivered := true }

/-- The event has been handled. -/
def handled (f : Feed) : Feed := { f with phase := .listening }

/-- How long the follower pauses when the stream is over, in seconds. -/
def nextPause (f : Feed) : Nat := if f.delivered then shortest else f.pause

/-- The stream is over at the time `now`, in milliseconds: it ended, or it failed. -/
def endStream (now : Nat) (f : Feed) : Feed :=
  { f with
    phase := .pausing (now + 1000 * f.nextPause)
    pause := min (2 * f.nextPause) longest }

/-- The pause is over. -/
def woken (f : Feed) : Feed := { f with phase := .subscribing }

/-- It was told to stop. -/
def stop (f : Feed) : Feed := { f with phase := .ended }

/-- It broke down. -/
def crash (f : Feed) : Feed := { f with phase := .crashed }

end Feed

end NodeStack.Stack
