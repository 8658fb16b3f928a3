import NodeStack.Api.Handler
import NodeStack.Scenario.World.Background

/-!
# `NodeStack.Scenario.Rehearsal`: a world with clients, on a clock of its own

- `Rehearsal`: a world and the requests under way in it.
- `Rehearsal.settle`: everything that can go on does.
- `Rehearsal.perform`: asks for something and waits for the end; the clock goes from timer to timer,
  and the rest goes on meanwhile.
- `Rehearsal.advance`: time passes.
- `Rehearsal.serve`, `Rehearsal.launch`: a request, waited for or in the background.
- `Rehearsal.drain`: the lines that a follower passes on now.

The clock moves only while somebody waits for it. What can go on at one point in time does so before
the clock moves on.
-/

set_option autoImplicit false

namespace NodeStack.Scenario

open Plan (Progress)

/-- Something asked of a world, as far as it has come. -/
abbrev Task (α : Type) := Progress Deed Deed.Answer DeedFlight α

/-- A procedure that asks for deeds. -/
abbrev Errand (α : Type) := Plan Deed Deed.Answer α

/-- A world and the requests under way in it, by their numbers. -/
structure Rehearsal where
  world : World
  requests : List (Task Api.Response)

namespace Rehearsal

/-- A world without requests. -/
def ofWorld (w : World) : Rehearsal := ⟨w, []⟩

/-- Some tasks go on as far as they can, one after the other. -/
def resumeTasks : List (Task Api.Response) → World → List (Task Api.Response) × World
  | [], w => ([], w)
  | t :: rest, w =>
    let (t, w) := t.resume World.lookDeed w
    let (rest, w) := resumeTasks rest w
    (t :: rest, w)

/-- The background and the requests go on as far as they can, once. -/
def pass (r : Rehearsal) : Rehearsal :=
  let (requests, w) := resumeTasks r.requests r.world.pass
  ⟨w, requests⟩

/-- So many passes. -/
def passes : Nat → Rehearsal → Rehearsal
  | 0, r => r
  | n + 1, r => passes n r.pass

/-- More passes than anything needs to go on as far as it can: whatever ends can let each of the
others go on once, and a task reads at most two files. -/
def settleBound (r : Rehearsal) : Nat :=
  r.requests.length + r.world.feeds.length + r.world.followers.length + 6

/-- Everything that can go on does. -/
def settle (r : Rehearsal) : Rehearsal := r.passes r.settleBound

/-- A task goes on, and the background with it for as long as the task waits, in at most so many
turns. -/
def turns {α : Type} : Nat → Task α → Rehearsal → Task α × Rehearsal
  | 0, t, r => (t, r)
  | n + 1, t, r =>
    let (t, w) := t.resume World.lookDeed r.world
    let r := { r with world := w }
    if t.isOver then (t, r) else turns n t r.pass

/-- When a task goes on by itself. -/
def taskTimers {α : Type} (t : Task α) : List Nat := (t.flight?.map DeedFlight.timers).getD []

/-- When something goes on by itself, after now. -/
def timers (r : Rehearsal) : List Nat := r.world.timers ++ r.requests.flatMap taskTimers

/-- The first of some points in time that lies ahead. -/
def nextOf (r : Rehearsal) (times : List Nat) : Option Nat :=
  (times.filter fun t => r.world.now < t).min?

/-- The clock shows a later time. -/
def goTo (time : Nat) (r : Rehearsal) : Rehearsal :=
  { r with world := { r.world with now := time } }

/-- Lets a task go on to its end, from timer to timer, in at most `fuel` of them. -/
def performWithin {α : Type} : (fuel : Nat) → Task α → Rehearsal → Task α × Rehearsal
  | 0, t, r => (t, r)
  | fuel + 1, t, r =>
    let (t, r) := r.turns r.settleBound t
    if t.isOver then (t, r)
    else
      match r.nextOf (taskTimers t ++ r.timers) with
      | some time => performWithin fuel t (r.goTo time)
      | none => (t, r)

/-- The timers that a task may wait for. -/
def performBound : Nat := 10000

/-- Asks for something and waits for the end. -/
def perform {α : Type} (errand : Errand α) (r : Rehearsal) : Task α × Rehearsal :=
  r.performWithin performBound (.ofPlan errand)

/-- Time passes up to `target`, from timer to timer, in at most `fuel` of them. -/
def passWithin : (fuel : Nat) → (target : Nat) → Rehearsal → Rehearsal
  | 0, target, r => r.goTo target
  | fuel + 1, target, r =>
    match r.nextOf r.timers with
    | some time =>
      if time ≤ target then passWithin fuel target (r.goTo time).settle else r.goTo target
    | none => r.goTo target

/-- Time passes. -/
def advance (ms : Nat) (r : Rehearsal) : Rehearsal :=
  (r.settle.passWithin (ms + 1) (r.world.now + ms)).settle

/-- Changes the world. -/
def onWorld {α : Type} (f : World → α × World) (r : Rehearsal) : α × Rehearsal :=
  let (a, w) := f r.world
  (a, { r with world := w })

/-- Changes the world, without a result. -/
def modify (f : World → World) (r : Rehearsal) : Rehearsal := { r with world := f r.world }

/-! ### Requests -/

/-- What can be said about the world without asking anything. -/
def view (w : World) : Api.View :=
  ⟨w.registry, w.journal, w.roster.size, Time.Stamp.ofMillis w.now⟩

/-- The handling of a request. -/
def handling (request : Api.Request) (w : World) : Errand Api.Response :=
  (Api.handle (view w) request).widen Deed.api fun _ answer => answer

/-- Serves a request and waits for the response. -/
def serve (request : Api.Request) (r : Rehearsal) : Task Api.Response × Rehearsal :=
  r.perform (handling request r.world)

/-- Begins to serve a request, and gives its number. -/
def launch (request : Api.Request) (r : Rehearsal) : Nat × Rehearsal :=
  (r.requests.length,
    { r with requests := r.requests ++ [Progress.ofPlan (handling request r.world)] }.settle)

/-! ### Followers -/

/-- Changes a follower. -/
def onFollower {α : Type} (n : Nat) (default : α) (f : Service.Follower → α × Service.Follower)
    (w : World) : α × World :=
  match w.followers[n]? with
  | none => (default, w)
  | some t =>
    let (a, follower) := f t.follower
    (a, { w with followers := w.followers.set n { t with follower := follower } })

/-- The lines that a follower passes on now, in at most `fuel` portions. -/
def drainWithin : (fuel : Nat) → Nat → Rehearsal → List String × Rehearsal
  | 0, _, r => ([], r)
  | fuel + 1, n, r =>
    match r.settle.onWorld (onFollower n [] Service.Follower.takeLines) with
    | ([], r) => ([], r)
    | (lines, r) =>
      let (more, r) := drainWithin fuel n r
      (lines ++ more, r)

/-- How many lines a follower could pass on without time passing, at most. -/
def drainBound (r : Rehearsal) : Nat :=
  r.world.engine.containers.foldl (fun n (_, c) => n + c.lines.length) 1000

/-- Whether a follower has ended and all its lines are taken. -/
def followerOver (n : Nat) (r : Rehearsal) : Bool :=
  match r.world.followers[n]? with
  | some t => t.follower.isOver && t.follower.buffer.isEmpty
  | none => true

/-- The lines that a follower passes on now, and whether it has ended. -/
def drain (n : Nat) (r : Rehearsal) : (List String × Bool) × Rehearsal :=
  let (lines, r) := drainWithin r.drainBound n r
  ((lines, r.followerOver n), r)

/-- A follower is told to stop. -/
def cancel (n : Nat) (r : Rehearsal) : Rehearsal :=
  r.modify fun w => (onFollower n () (fun f => ((), f.cancel)) w).2

/-- The reader of a follower goes away. -/
def desert (n : Nat) (r : Rehearsal) : Rehearsal :=
  r.modify fun w => (onFollower n () (fun f => ((), f.drop)) w).2

end Rehearsal

end NodeStack.Scenario
