import NodeStack.Launcher.Roster

/-!
# `NodeStack.Launcher.Socket`: the socket of an attached launcher

- `Socket`: a socket with its session, while it is read and written.
- `Socket.attach`: a launcher attaches itself.
- `Socket.step`: a message comes, a frame is written, the gateway stops, or the writer goes away.

The socket is read until it is closed, breaks or ends, or the gateway stops. Then its session is
removed, and the writer is told to go away. A frame that cannot be written ends the writing only. In
both cases the outbox stays as it is until the writer is gone.
-/

set_option autoImplicit false

namespace NodeStack.Launcher

/-- What comes from a socket. -/
inductive Message where
  | text (text : String)
  /-- A message that is no text. -/
  | other
  | close
  /-- The socket breaks. -/
  | failure
  /-- There is nothing more. -/
  | ending
  deriving Repr, DecidableEq

/-- How far the writer of a socket has come. -/
inductive Writer where
  /-- It takes frames and writes them. -/
  | busy
  /-- A frame could not be written: it takes no more and closes the socket. -/
  | closing
  /-- It is gone, and nobody takes frames. -/
  | gone
  deriving Repr, DecidableEq

/-- A socket with its session. -/
structure Socket where
  session : Nat
  /-- Messages are taken in. -/
  reading : Bool
  writer : Writer
  /-- The frames that have been written. -/
  written : List Exchange.Request

namespace Socket

/-- What can happen to a socket. -/
inductive Happening where
  | message (message : Message)
  /-- The next frame, if there is one, is written. -/
  | write (succeeds : Bool)
  /-- The gateway stops. -/
  | shutdown
  /-- The writer goes away, if it is to. -/
  | halt
  deriving Repr, DecidableEq

/-- How many frames may wait for being written. -/
def outboxCapacity : Nat := 64

/-- A launcher attaches itself. -/
def attach (r : Roster) : Socket × Roster :=
  let (id, r) := r.register outboxCapacity
  (⟨id, true, .busy, []⟩, r)

/-- The socket is not read any more, and its session is removed. -/
def leave (s : Socket) (r : Roster) : Socket × Roster :=
  ({ s with reading := false }, r.remove s.session)

/-- Takes the oldest frame of an exchange. -/
def takeFrame (x : Exchange) : Option Exchange.Request × Exchange :=
  let (frame, outbox) := x.outbox.take
  (frame, { x with outbox := outbox })

/-- Writes the next frame, if there is one. -/
def writeNext (succeeds : Bool) (s : Socket) (r : Roster) : Socket × Roster :=
  match r.onSession s.session none takeFrame with
  | (none, r) => (s, r)
  | (some frame, r) =>
    if succeeds then ({ s with written := s.written ++ [frame] }, r)
    else ({ s with writer := .closing }, r)

/-- Whether the writer is to go away: it could not write a frame, or it was told to. -/
def halting (s : Socket) : Bool :=
  match s.writer with
  | .busy => !s.reading
  | .closing => true
  | .gone => false

/-- The writer goes away. -/
def dismiss (s : Socket) (r : Roster) : Socket × Roster :=
  ({ s with writer := .gone }, r.modify s.session Exchange.shutOutbox)

/-- Takes in a message. -/
def take (message : Message) (s : Socket) (r : Roster) : Socket × Roster :=
  match message with
  | .text text => (s, r.modify s.session (Exchange.receive text))
  | .other => (s, r)
  | .close | .failure | .ending => s.leave r

/-- What comes of a happening. -/
def step (h : Happening) (s : Socket) (r : Roster) : Socket × Roster :=
  match h with
  | .message message => if s.reading then s.take message r else (s, r)
  | .write succeeds => if s.writer = .busy then s.writeNext succeeds r else (s, r)
  | .shutdown => if s.reading then s.leave r else (s, r)
  | .halt => if s.halting then s.dismiss r else (s, r)

end Socket

end NodeStack.Launcher
