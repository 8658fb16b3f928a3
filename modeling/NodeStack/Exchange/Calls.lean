import NodeStack.Exchange.Outbox
import NodeStack.Table

/-!
# `NodeStack.Exchange.Calls`: calls and the answers that belong to them

- `Exchange`: the calls under way, the slots of those that have no answer yet, and the outbox.
- `Exchange.start`, `Exchange.poll`, `Exchange.drop`: begin a call, look at it, give it up.
- `Exchange.receive`: a text from the other side. An answer goes to the call whose id it carries,
  a request to whoever listens for requests, and anything else is dropped.
- `Exchange.close`: lets go of all calls.

A call has a slot from its start until it is answered, given up, failed or let go.
-/

set_option autoImplicit false

namespace NodeStack

namespace Exchange

/-- What a call has been told. -/
inductive Reply where
  /-- Nothing yet. -/
  | awaited
  /-- Its answer. -/
  | given (response : Response)
  /-- That no answer will come. -/
  | released
  deriving Repr

/-- A call under way. -/
structure Call where
  frame : Request
  /-- The frame has been put into the outbox. -/
  sent : Bool
  reply : Reply
  deriving Repr

/-- Where the requests of the other side go. -/
inductive Listener where
  /-- Nobody ever listened. -/
  | absent
  /-- Somebody listens; the requests not yet collected, oldest first. -/
  | listening (received : List Request)
  /-- The listener has gone. -/
  | gone
  deriving Repr

/-- Hands a request to the listener. -/
def Listener.hear (r : Request) : Listener → Listener
  | .listening received => .listening (received ++ [r])
  | other => other

/-- What looking at a call shows. -/
inductive Progress where
  /-- The call waits for a place in the outbox. -/
  | blocked
  /-- The call's frame has been put into the outbox. -/
  | sent
  /-- The call waits for its answer. -/
  | waiting
  /-- The call is over, with its answer. -/
  | answered (response : Response)
  /-- The call is over, without an answer. -/
  | failed (fault : Fault)
  deriving Repr

end Exchange

open Exchange in
/-- One end of an exchange. -/
structure Exchange where
  /-- The id of the next call. -/
  next : Nat
  /-- The ids of the calls that can still be answered, oldest first. -/
  slots : List Nat
  closed : Bool
  outbox : Outbox
  /-- The calls under way, by id. -/
  calls : Table Call
  listener : Listener

namespace Exchange

/-- An exchange without calls, with so many places in its outbox. -/
def ofCapacity (capacity : Nat) (listener : Listener) : Exchange :=
  ⟨1, [], false, Outbox.ofCapacity capacity, Table.empty, listener⟩

/-- How many calls can still be answered. -/
def pending (x : Exchange) : Nat := x.slots.length

/-- Forgets a call and its slot. -/
def forget (id : Nat) (x : Exchange) : Exchange :=
  { x with slots := x.slots.filter (· != id), calls := x.calls.erase id }

/-- Puts a call's frame into the outbox if the call has a place there; the call is over if nobody
takes frames. -/
def trySend (id : Nat) (call : Call) (x : Exchange) : Progress × Exchange :=
  if !x.outbox.taken then (.failed .closed, x.forget id)
  else if x.outbox.hasPlace id then
    (.sent,
      { x with
        outbox := x.outbox.put id call.frame
        calls := x.calls.set id { call with sent := true } })
  else (.blocked, x)

/-- Begins a call: its id, unless the exchange is closed, and how far it comes at once. -/
def start (method : String) (params : Json) (x : Exchange) : Option Nat × Progress × Exchange :=
  if x.closed then (none, .failed .closed, x)
  else
    let id := x.next
    let call : Call := ⟨⟨id, method, params⟩, false, .awaited⟩
    let x :=
      { x with
        next := id + 1
        slots := x.slots ++ [id]
        outbox := if x.outbox.taken then x.outbox.enter id else x.outbox
        calls := x.calls.set id call }
    let (progress, x) := x.trySend id call
    (some id, progress, x)

/-- Looks at a call that has been sent. -/
def pollSent (id : Nat) (call : Call) (x : Exchange) : Progress × Exchange :=
  match call.reply with
  | .awaited => (.waiting, x)
  | .given response => (.answered response, x.forget id)
  | .released => (.failed .closed, x.forget id)

/-- Looks at a call: it goes on if it can. -/
def poll (id : Nat) (x : Exchange) : Progress × Exchange :=
  match x.calls.get? id with
  | none => (.failed .closed, x)
  | some call => if call.sent then x.pollSent id call else x.trySend id call

/-- Gives a call up. -/
def drop (id : Nat) (x : Exchange) : Exchange :=
  match x.calls.get? id with
  | none => x
  | some call =>
    let x := x.forget id
    if call.sent then x else { x with outbox := x.outbox.leave id }

/-- Gives a response to the call it belongs to, if that call can still be answered. -/
def answer (response : Response) (x : Exchange) : Exchange :=
  if x.slots.contains response.id then
    match x.calls.get? response.id with
    | none => x
    | some call =>
      { x with
        slots := x.slots.filter (· != response.id)
        calls := x.calls.set response.id { call with reply := .given response } }
  else x

/-- Takes in a text from the other side. -/
def receive (text : String) (x : Exchange) : Exchange :=
  match Frame.ofText? text with
  | some (.request r) => { x with listener := x.listener.hear r }
  | some (.response r) => x.answer r
  | none => x

/-- Tells a call that no answer will come. -/
def releaseCall (calls : Table Call) (id : Nat) : Table Call :=
  match calls.get? id with
  | some call => calls.set id { call with reply := .released }
  | none => calls

/-- Closes the exchange: every call that could still be answered is let go. -/
def close (x : Exchange) : Exchange :=
  { x with closed := true, slots := [], calls := x.slots.foldl releaseCall x.calls }

/-- Takes all frames from the outbox. -/
def takeFrames (x : Exchange) : List Request × Exchange :=
  let (frames, outbox) := x.outbox.takeAll
  (frames, { x with outbox := outbox })

/-- Nobody takes frames any more. -/
def shutOutbox (x : Exchange) : Exchange := { x with outbox := x.outbox.shut }

/-- The requests of the other side not yet collected. -/
def collect (x : Exchange) : List Request × Exchange :=
  match x.listener with
  | .listening received => (received, { x with listener := .listening [] })
  | _ => ([], x)

/-- The listener goes away. -/
def dropListener (x : Exchange) : Exchange :=
  match x.listener with
  | .listening _ => { x with listener := .gone }
  | _ => x

end Exchange

end NodeStack
