import NodeStack.Scenario.World.Deeds

/-!
# `NodeStack.Scenario.World.Background`: what goes on in a world by itself

- `World.runFeed`, `World.runFollower`: a feed or a follower goes on as far as it can.
- `World.pass`: everything in the background goes on as far as it can, once.
- `World.timers`: when something in the background goes on by itself.
- `World.begin`: a feed is put in charge, and the services are opened.
-/

set_option autoImplicit false

namespace NodeStack.Scenario

open Plan (Progress)
open Service (Follower)
open Stack (Feed)

namespace World

/-! ### Feeds -/

/-- What a feed depends on in a world. -/
def feedSurroundings : Feed.Surroundings World Nat StagedEngine.Flight where
  subscribe w :=
    let (stream, engine) := w.engine.subscribe
    (stream, { w with engine := engine })
  receive stream w :=
    let (finding, engine) := w.engine.receive stream
    (finding, { w with engine := engine })
  look := lookTrack

/-- A step of a feed: the feed after it, and whether it may go on at once. -/
def stepFeed (t : FeedTask) (w : World) : FeedTask × Bool × World :=
  t.step feedSurroundings w.registry w.now w.stopped w

/-- A feed goes on as far as it can, in at most `fuel` steps. -/
def runFeed : (fuel : Nat) → FeedTask → World → FeedTask × World
  | 0, t, w => (t, w)
  | fuel + 1, t, w =>
    match w.stepFeed t with
    | (t, true, w) => runFeed fuel t w
    | (t, false, w) => (t, w)

/-- More steps than a feed can take at once: two for each event, and a few to begin. -/
def feedBound (t : FeedTask) (w : World) : Nat :=
  let queued :=
    match (t.stream.getD w.engine.channel) |> w.engine.channels.get? with
    | some c => c.queue.length
    | none => 0
  2 * queued + 8

/-- The feeds go on. -/
def runFeeds : List FeedTask → World → List FeedTask × World
  | [], w => ([], w)
  | t :: rest, w =>
    let (t, w) := w.runFeed (w.feedBound t) t
    let (rest, w) := runFeeds rest w
    (t :: rest, w)

/-! ### Followers -/

/-- A follower that was told to stop gives its wait up. -/
def giveUpWait (t : FollowTask) (w : World) : FollowTask × World :=
  match t.ticket with
  | some ticket =>
    ({ t with follower := t.follower.finish, ticket := none },
      (w.onWatch t.service () fun watch => ((), watch.drop ticket)).2)
  | none => ({ t with follower := t.follower.finish }, w)

/-- A follower that waits for the container. -/
def waitFor (t : FollowTask) (w : World) : FollowTask × Bool × World :=
  match t.ticket with
  | none =>
    match w.onWatch t.service (.inr 0) fun watch => watch.await t.follower.want with
    | (.inl record, w) => ({ t with follower := t.follower.found record }, true, w)
    | (.inr ticket, w) => ({ t with ticket := some ticket }, false, w)
  | some ticket =>
    match w.onWatch t.service none fun watch => watch.poll ticket with
    | (some record, w) =>
      ({ t with follower := t.follower.found record, ticket := none }, true, w)
    | (none, w) => (t, false, w)

/-- A follower that asks for a log. -/
def awaitLog (range : Engine.LogRange) (t : FollowTask) (w : World) : FollowTask × Bool × World :=
  match w.openLog (w.containerOf t.service) range t.flight with
  | (.waiting f, w) => ({ t with flight := some f }, false, w)
  | (.crashed _, w) => ({ t with follower := t.follower.finish, flight := none }, true, w)
  | (.answered (.ok log), w) =>
    ({ t with follower := t.follower.opened log, flight := none }, true, w)
  | (.answered (.error _), w) =>
    ({ t with follower := t.follower.refused w.now, flight := none }, true, w)

/-- A step of a follower: the follower after it, and whether it may go on at once. -/
def stepFollower (t : FollowTask) (w : World) : FollowTask × Bool × World :=
  match t.follower.phase with
  | .waiting =>
    if t.follower.told then
      let (t, w) := w.giveUpWait t
      (t, true, w)
    else w.waitFor t
  | .opening _ range => w.awaitLog range t
  | _ =>
    match t.follower.go w.now with
    | some follower => ({ t with follower := follower }, true, w)
    | none => (t, false, w)

/-- A follower goes on as far as it can, in at most `fuel` steps. -/
def runFollower : (fuel : Nat) → FollowTask → World → FollowTask × World
  | 0, t, w => (t, w)
  | fuel + 1, t, w =>
    match w.stepFollower t with
    | (t, true, w) => runFollower fuel t w
    | (t, false, w) => (t, w)

/-- More steps than a follower can take at once: two for each line that there is room for, and a few
between logs. -/
def followBound : Nat := 2 * Follower.bufferLimit + 8

/-- The followers go on. -/
def runFollowers : List FollowTask → World → List FollowTask × World
  | [], w => ([], w)
  | t :: rest, w =>
    let (t, w) := w.runFollower followBound t
    let (rest, w) := runFollowers rest w
    (t :: rest, w)

/-! ### All of it -/

/-- Everything in the background goes on as far as it can, once. -/
def pass (w : World) : World :=
  let (feeds, w) := w.runFeeds w.feeds
  let w := { w with feeds := feeds }
  let (followers, w) := w.runFollowers w.followers
  { w with followers := followers }

/-- When a feed goes on by itself. -/
def feedTimers (t : FeedTask) : List Nat :=
  match t.feed.phase with
  | .pausing wake => [wake]
  | .syncing | .handling _ => t.work.flatMap trackTimers
  | _ => []

/-- When a follower goes on by itself. -/
def followTimers (t : FollowTask) : List Nat :=
  t.follower.timer.toList ++ (t.flight.map (·.due)).toList

/-- When something in the background goes on by itself. -/
def timers (w : World) : List Nat :=
  w.feeds.flatMap feedTimers ++ w.followers.flatMap followTimers

/-- A feed is put in charge, and the services that are not disabled are opened. -/
def begin (w : World) : World :=
  let w :=
    (List.range w.registry.size).foldl
      (fun w i =>
        match w.registry.get? i with
        | some s =>
          if s.handle.disabled then w else w.count i fun t => { t with opens := t.opens + 1 }
        | none => w)
      w
  { w with feeds := w.feeds ++ [Feed.Task.start], chief := some w.feeds.length }

end World

end NodeStack.Scenario
