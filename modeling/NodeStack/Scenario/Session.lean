import NodeStack.Scenario.Rehearsal

/-!
# `NodeStack.Scenario.Session`: a rehearsal in which everything under way has a name

- `Session`: a rehearsal, and the names of followers, requests, streams and launchers.
- `Session.perform`: asks for something and waits for the end.
- `Session.follow`, `next?`, `cancel`, `drop`: followers of logs.
- `Session.serve`, `launch`, `result?`, `text`: requests.
- `Session.openStream`, `readStream?`, `dropStream`: bodies that come bit by bit.
- `Session.attach`, `detach`, `onLauncher?`: launchers.

A name that is given again stands for the newer thing, and the older one is given up.
-/

set_option autoImplicit false

namespace NodeStack.Scenario

open Plan (Progress)

/-- A body that is read bit by bit. -/
inductive Stream where
  | log (follower : Nat)
  | setup (stream : Api.SetupStream)
  /-- What is left of a text. -/
  | text (rest : String)

/-- The stream of a body. -/
def Stream.ofBody : Api.Body → Stream
  | .log n => .log n
  | .setup s => .setup s
  | .text t => .text t
  | .json v => .text v.render
  | .empty => .text ""

/-- A rehearsal in which everything under way has a name. -/
structure Session where
  stage : Rehearsal
  followers : Dict Nat
  requests : Dict Nat
  streams : Dict Stream
  launchers : Dict Nat

namespace Session

/-- A session in which nothing is under way. -/
def ofWorld (w : World) : Session := ⟨.ofWorld w, [], [], [], []⟩

/-- The world. -/
def world (s : Session) : World := s.stage.world

/-- Changes the rehearsal. -/
def onStage {α : Type} (f : Rehearsal → α × Rehearsal) (s : Session) : α × Session :=
  let (a, stage) := f s.stage
  (a, { s with stage := stage })

/-- Changes the world. -/
def modify (f : World → World) (s : Session) : Session :=
  { s with stage := s.stage.modify f }

/-- Everything that can go on does. -/
def settle (s : Session) : Session := { s with stage := s.stage.settle }

/-- Time passes. -/
def advance (ms : Nat) (s : Session) : Session := { s with stage := s.stage.advance ms }

/-- How a task has ended, if it has. -/
def valueOf? {α : Type} : Task α → Option α
  | .ended a => some a
  | _ => none

/-- Asks for something and waits for the end; nothing if it breaks down. -/
def perform {α : Type} (errand : Errand α) (s : Session) : Option α × Session :=
  s.onStage fun r => let (t, r) := r.perform errand; (valueOf? t, r)

/-- Asks for a deed and waits for the end. -/
def ask (d : Deed) (s : Session) : Option d.Answer × Session := s.perform (.ask d .done)

/-! ### Followers -/

/-- Begins to follow the log of a service. -/
def follow (name : String) (service : Nat) (since tail : Option String) (s : Session) : Session :=
  let stage :=
    match s.followers.get? name with
    | some old => s.stage.desert old
    | none => s.stage
  let (n, stage) := stage.onWorld fun w => w.follow service since tail
  { s with stage := stage, followers := s.followers.put name n }

/-- The lines that a follower passes on now, and whether it has ended. -/
def next? (name : String) (s : Session) : Option (List String × Bool) × Session :=
  match s.followers.get? name with
  | some n => s.onStage fun r => let (a, r) := r.drain n; (some a, r)
  | none => (none, s)

/-- A follower is told to stop; whether there is one. -/
def cancel (name : String) (s : Session) : Bool × Session :=
  match s.followers.get? name with
  | some n => (true, { s with stage := s.stage.cancel n })
  | none => (false, s)

/-- The reader of a follower goes away; whether there is one. -/
def drop (name : String) (s : Session) : Bool × Session :=
  match s.followers.get? name with
  | some n =>
    (true, { s with stage := s.stage.desert n, followers := s.followers.remove name })
  | none => (false, s)

/-! ### Requests -/

/-- Serves a request and waits for the response. -/
def serve (request : Api.Request) (s : Session) : Option Api.Response × Session :=
  s.onStage fun r => let (t, r) := r.serve request; (valueOf? t, r)

/-- Begins to serve a request. -/
def launch (name : String) (request : Api.Request) (s : Session) : Session :=
  let (n, stage) := s.stage.launch request
  { s with stage := stage, requests := s.requests.put name n }

/-- How far a request has come; one that is over loses its name. -/
def result? (name : String) (s : Session) : Option (Task Api.Response) × Session :=
  match (s.requests.get? name).bind fun n => s.stage.requests[n]? with
  | some t =>
    (some t, if t.isOver then { s with requests := s.requests.remove name } else s)
  | none => (none, s)

/-! ### Streams -/

/-- The lines of the setup that can be sent now. -/
def pull (stream : Api.SetupStream) (s : Session) : String × Api.SetupStream :=
  match s.world.journal with
  | some j =>
    let (lines, stream) := stream.pull j
    (String.join lines, stream)
  | none => ("", stream)

/-- The text of a body, as far as it is there. -/
def text (body : Api.Body) (s : Session) : String :=
  match body with
  | .text t => t
  | .setup stream => (s.pull stream).1
  | _ => ""

/-- Nobody reads a stream any more; whether there is one. -/
def dropStream (name : String) (s : Session) : Bool × Session :=
  match s.streams.get? name with
  | none => (false, s)
  | some stream =>
    let stage :=
      match stream with
      | .log n => s.stage.desert n
      | _ => s.stage
    (true, { s with stage := stage, streams := s.streams.remove name })

/-- Begins to read a body. -/
def openStream (name : String) (body : Api.Body) (s : Session) : Session :=
  let s := (s.dropStream name).2
  { s with streams := s.streams.put name (.ofBody body) }

/-- What has come of a stream, and whether it has ended. -/
def readStream? (name : String) (s : Session) : Option (String × Bool) × Session :=
  match s.streams.get? name with
  | none => (none, s)
  | some (.text t) => (some (t, true), { s with streams := s.streams.put name (.text "") })
  | some (.setup stream) =>
    let (text, stream) := s.pull stream
    (some (text, stream.ended), { s with streams := s.streams.put name (.setup stream) })
  | some (.log n) =>
    let ((lines, ended), stage) := s.stage.drain n
    (some (String.join (lines.map (· ++ "\n")), ended), { s with stage := stage })

/-! ### Launchers -/

/-- Attaches a launcher whose outbox has so many places, and gives its session. -/
def attach (name : String) (capacity : Nat) (s : Session) : Nat × Session :=
  let (id, stage) := s.stage.onWorld fun w =>
    let (id, roster) := w.roster.register capacity
    (id, { w with roster := roster })
  (id, { s with stage := stage, launchers := s.launchers.put name id })

/-- Detaches a launcher; whether there is one. -/
def detach (name : String) (s : Session) : Bool × Session :=
  match s.launchers.get? name with
  | none => (false, s)
  | some id =>
    (true,
      { s.modify fun w => { w with roster := w.roster.remove id } with
        launchers := s.launchers.remove name })

/-- Changes the roster on behalf of a launcher, if there is one of that name. -/
def onLauncher? {α : Type} (name : String) (f : Nat → Launcher.Roster → α × Launcher.Roster)
    (s : Session) : Option α × Session :=
  match s.launchers.get? name with
  | none => (none, s)
  | some id =>
    s.onStage fun r =>
      let (a, r) := r.onWorld fun w =>
        let (a, roster) := f id w.roster
        (a, { w with roster := roster })
      (some a, r)

end Session

end NodeStack.Scenario
