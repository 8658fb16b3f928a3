import NodeStack.Stack.Feed
import NodeStack.Stack.Tracking

/-!
# `NodeStack.Stack.Feed.Task`: a feed at work

- `Feed.Surroundings`: what a feed depends on: the streams of events and the answers to questions.
- `Feed.Task`: a feed, the stream that it reads, and the procedures that have to end before it goes
  on.
- `Feed.Task.step`: a step of it, in any surroundings.
-/

set_option autoImplicit false

namespace NodeStack.Stack.Feed

open Engine (Finding)
open Plan (Look Progress)

/-- What a feed depends on. -/
structure Surroundings (σ Stream F : Type) where
  /-- Begins to read events; the stream, unless it is over from the start. -/
  subscribe : σ → Option Stream × σ
  /-- Reads the next item of a stream. -/
  receive : Option Stream → σ → Finding × σ
  /-- Looks at an open question, given what is under way for it. -/
  look : (q : Track) → Option F → σ → Look q.Answer F × σ

/-- A feed at work. -/
structure Task (Stream F : Type) where
  feed : Feed
  /-- The stream that it reads. -/
  stream : Option Stream
  /-- What has to end before it goes on. -/
  work : List (Progress Track Track.Answer F Unit)

namespace Task

variable {σ Stream F : Type}

/-- A feed that has not begun. -/
def start : Task Stream F := ⟨Feed.start, none, []⟩

/-- A feed that reads its stream. -/
def listen (around : Surroundings σ Stream F) (r : Registry) (now : Nat) (stopped : Bool)
    (t : Task Stream F) (s : σ) : Option (Task Stream F) × σ :=
  let (finding, s) := around.receive t.stream s
  match finding with
  | .item (.ok event) =>
    (some { t with
      feed := t.feed.received event
      work := [.ofPlan (handle r event)] }, s)
  | .item (.error _) | .ended => (some { t with feed := t.feed.endStream now, stream := none }, s)
  | .nothing => (if stopped then some { t with feed := t.feed.stop } else none, s)

/-- A feed whose procedures go on; `next` is what comes once all of them have ended. -/
def proceed (around : Surroundings σ Stream F) (next : Feed → Feed) (t : Task Stream F) (s : σ) :
    Task Stream F × Bool × σ :=
  let (tasks, s) := Progress.resumeAll around.look t.work s
  let t := { t with work := tasks }
  if Progress.anyCrashed tasks then ({ t with feed := t.feed.crash }, true, s)
  else if Progress.allOver tasks then ({ t with feed := next t.feed }, true, s)
  else (t, false, s)

/-- A step of a feed at the time `now`: the feed after it, and whether it may go on at once. -/
def step (around : Surroundings σ Stream F) (r : Registry) (now : Nat) (stopped : Bool)
    (t : Task Stream F) (s : σ) : Task Stream F × Bool × σ :=
  match t.feed.phase with
  | .subscribing =>
    let (stream, s) := around.subscribe s
    (⟨t.feed.subscribed, stream, (syncs r).map .ofPlan⟩, true, s)
  | .syncing => t.proceed around Feed.synced s
  | .handling _ => t.proceed around Feed.handled s
  | .listening =>
    match t.listen around r now stopped s with
    | (some t, s) => (t, true, s)
    | (none, s) => (t, false, s)
  | .pausing wake =>
    if stopped then ({ t with feed := t.feed.stop }, true, s)
    else if wake ≤ now then ({ t with feed := t.feed.woken }, true, s)
    else (t, false, s)
  | .ended | .crashed => (t, false, s)

end Task

end NodeStack.Stack.Feed
