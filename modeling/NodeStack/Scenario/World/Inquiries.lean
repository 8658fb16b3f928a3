import NodeStack.Scenario.World.Tracking
import NodeStack.Service.Status
import NodeStack.Stack.Round

/-!
# `NodeStack.Scenario.World.Inquiries`: finding out about the services of a world

- `World.lookInquiry`: the answers to the questions on the way to a status.
- `StatusTask`: the status of a service as it is found out; `World.pollStatus` looks at it.
- `World.statusTask`, `World.statusTasks`, `World.round`: the beginning for one service and for all
  of them.

A file is read in the background: it is there when it is looked at a second time.
-/

set_option autoImplicit false

namespace NodeStack.Scenario

open Plan (Look Progress)
open Service (Question Inquiry)
open Stack (Ending Reading Round)

/-- A command under way, or its result. -/
inductive CommandFlight where
  | underWay (flight : Option StagedEngine.Flight)
  | ended (result : Except Engine.Fault Engine.ExecResult)

/-- What is under way for a question about a service. -/
inductive InquiryFlight where
  /-- A file is read. -/
  | file
  /-- A service is called. -/
  | call (flight : Replies.Flight)
  /-- Two commands run. -/
  | commands (first second : CommandFlight)
  /-- An understudy acts until a point in time, or for ever. -/
  | act (due : Option Nat)

namespace World

/-- A file that is read in the background. -/
def readLater {α : Type} (flight : Option InquiryFlight) (answer : α) (w : World) :
    Look α InquiryFlight × World :=
  match flight with
  | none => (.waiting .file, w)
  | some _ => (.answered answer, w)

/-- The call under way; one that begins takes its answer from the script. -/
def replyOf (service method : String) (arguments : Json) (absent : Upstream.Fault)
    (flight : Option InquiryFlight) (w : World) : Replies.Flight × World :=
  match flight with
  | some (.call f) => (f, w)
  | _ =>
    let (f, replies) := w.replies.call service method arguments absent w.now
    (f, { w with replies := replies })

/-- A call of a service. -/
def callService {α : Type} (service method : String) (arguments : Json) (absent : Upstream.Fault)
    (read : Except Upstream.Fault Replies.Value → α) (flight : Option InquiryFlight) (w : World) :
    Look α InquiryFlight × World :=
  let (f, w) := w.replyOf service method arguments absent flight
  match f.outcome? w.now with
  | some outcome => (.answered (read outcome), w)
  | none => (.waiting (.call f), w)

/-- The fault of a service that is not there. -/
def absentHttp : Upstream.Fault := .transport true

/-- Looks at a command; the text of a breakdown comes instead. -/
def lookCommand (container : String) (command : List String) (c : CommandFlight) (w : World) :
    (CommandFlight ⊕ Option String) × World :=
  match c with
  | .ended result => (.inl (.ended result), w)
  | .underWay flight =>
    match w.exec container command false flight with
    | (.answered result, w) => (.inl (.ended result), w)
    | (.waiting f, w) => (.inl (.underWay (some f)), w)
    | (.crashed text, w) => (.inr text, w)

/-- What two commands have come to; nothing if the deadline passes first. -/
def judgeCommands (deadline now : Nat) : CommandFlight → CommandFlight →
    Look (Question.Answer (.commands [] [])) InquiryFlight
  | .ended first, .ended second => .answered (some (first, second))
  | first, second => if deadline ≤ now then .answered none else .waiting (.commands first second)

/-- Looks at two commands. -/
def lookCommands (deadline : Nat) (container : String) (first second : List String)
    (a b : CommandFlight) (w : World) :
    Look (Question.Answer (.commands [] [])) InquiryFlight × World :=
  match w.lookCommand container first a with
  | (.inr text, w) => (.crashed text, w)
  | (.inl a, w) =>
    match w.lookCommand container second b with
    | (.inr text, w) => (.crashed text, w)
    | (.inl b, w) => (judgeCommands deadline w.now a b, w)

/-- Counts that an understudy was asked for its status. -/
def noteAsked (service : Nat) (w : World) : World :=
  w.count service fun t => { t with asked := t.asked + 1 }

/-- What an act that is over at a time has come to. -/
def judgeAct (due now : Nat) (text : String) : Look String InquiryFlight :=
  if due ≤ now then .answered text else .waiting (.act (some due))

/-- Looks at the act of an understudy; one that begins is counted. -/
def lookAct (service : Nat) (flight : Option InquiryFlight) (w : World) :
    Service.Act → Look String InquiryFlight × World
  | .answer delay text =>
    match flight with
    | some (.act (some due)) => (judgeAct due w.now text, w)
    | _ => (judgeAct (w.now + delay) w.now text, w.noteAsked service)
  | .never => (.waiting (.act none), if flight.isSome then w else w.noteAsked service)
  | .crash text => (.crashed text, w.noteAsked service)

/-- What is under way for two commands. -/
def commandFlights : Option InquiryFlight → CommandFlight × CommandFlight
  | some (.commands a b) => (a, b)
  | _ => (.underWay none, .underWay none)

/-- A variable in the environment of the container of the service of a name. -/
def getenvOf (name key : String) (w : World) : Except Service.Fault (Option String) :=
  match w.registry.byName? name with
  | some i => w.getenv i key
  | none => .error (.sibling name)

/-- The answers to the questions on the way to the status of a service. -/
def lookInquiry (deadline service : Nat) : (q : Question) → Option InquiryFlight → World →
    Look q.Answer InquiryFlight × World
  | .base, _, w => (.answered (w.baseOf service), w)
  | .environment name key, _, w => (.answered (w.getenvOf name key), w)
  | .file path, flight, w => w.readLater flight (w.disk.read path)
  | .present path, flight, w => w.readLater flight (w.disk.holds path)
  | .call method params, flight, w =>
    w.callService (w.nameOf service) method params absentHttp Replies.asJson flight
  | .probe url, flight, w =>
    w.callService (w.nameOf service) "probe" (.str url) absentHttp Replies.asUnit flight
  | .health, flight, w =>
    w.callService (w.nameOf service) "health" .null absentHttp Replies.asFlag flight
  | .lightning, flight, w =>
    w.callService (w.nameOf service) "get_info" .null .noClient Replies.asLightning flight
  | .trading name, flight, w =>
    w.callService name "get_info" .null .noClient (Replies.asTrading .info) flight
  | .commands first second, flight, w =>
    let (a, b) := commandFlights flight
    w.lookCommands deadline (w.containerOf service) first second a b
  | .act act, flight, w => w.lookAct service flight act

end World

/-- The status of a service as it is found out. -/
structure StatusTask where
  service : Nat
  deadline : Nat
  progress : Progress Question Question.Answer InquiryFlight String

namespace World

/-- Looks at the status of a service. -/
def pollStatus (t : StatusTask) (w : World) : Reading StatusTask × World :=
  match t.progress.resume (lookInquiry t.deadline t.service) w with
  | (.ended text, w) => (.inr (.text text), w)
  | (.crashed text, w) => (.inr (.crashed text), w)
  | (progress, w) => (.inl { t with progress := progress }, w)

/-- The beginning of the status of a service. -/
def statusTask (deadline service : Nat) (w : World) : StatusTask :=
  let plan :=
    match w.registry.get? service with
    | some s => s.status (w.registry.surroundings w.isSetup)
    | none => pure ""
  ⟨service, deadline, .ofPlan plan⟩

/-- The beginnings of the statuses of all services. -/
def statusTasks (deadline : Nat) (w : World) : List (String × StatusTask) :=
  (List.range w.registry.size).map fun i => (w.nameOf i, w.statusTask deadline i)

/-- The beginning of a round. -/
def round (deadline : Nat) (w : World) : Round StatusTask :=
  .start deadline w.now (w.statusTasks deadline)

end World

end NodeStack.Scenario
