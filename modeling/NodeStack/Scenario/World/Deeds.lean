import NodeStack.Api.Question
import NodeStack.Scenario.World.Inquiries
import NodeStack.Service.Lightning.Settings
import NodeStack.Stack.Closing

/-!
# `NodeStack.Scenario.World.Deeds`: what can be asked of a world

- `Deed`, `Deed.Answer`: what a client or an operator can ask for.
- `DeedFlight`: what is under way for it.
- `World.lookDeed`: the answers.
- `DeedFlight.timers`: when what is under way goes on by itself.
-/

set_option autoImplicit false

namespace NodeStack.Scenario

open Plan (Look Progress)
open Service (Question)
open Stack (Ending Reading Round)

/-- What a client or an operator can ask for. -/
inductive Deed where
  /-- What the handling of a client's request asks for. -/
  | api (question : Api.Question)
  /-- The status of every service, by a deadline. -/
  | statuses (deadline : Nat)
  /-- To bring everything up to date. -/
  | sync
  /-- To handle an event. -/
  | handle (event : Engine.Event)
  /-- To bring a service up to date. -/
  | refresh (service : Nat)
  /-- To run a command in the container of a service. -/
  | exec (service : Nat) (command : List String) (terminal : Bool)
  /-- What a lightning node says about itself. -/
  | lightning (service : Nat)
  /-- The values of a key in a settings file. -/
  | settings (path key : String)
  /-- To close the stack. -/
  | close

/-- The type of the answers to a deed. -/
def Deed.Answer : Deed → Type
  | .api question => question.Answer
  | .statuses _ => Dict String
  | .sync => Unit
  | .handle _ => Unit
  | .refresh _ => Except Engine.Fault Unit
  | .exec .. => Except Engine.Fault Engine.ExecResult
  | .lightning _ => Except Upstream.Fault Service.Lightning.Info
  | .settings .. => Except Service.Fault (List String)
  | .close => Except Stack.Fault Unit

/-- What is under way for a deed. -/
inductive DeedFlight where
  /-- The status of a service. -/
  | status (task : StatusTask)
  /-- The status of every service. -/
  | round (round : Round StatusTask)
  /-- A call of the engine. -/
  | engine (flight : StagedEngine.Flight)
  /-- A log that does not come to its end. -/
  | silent
  /-- An errand of a launcher. -/
  | launcher (call : Launcher.Call)
  /-- A call of a service. -/
  | inquiry (flight : InquiryFlight)
  /-- Procedures that follow the containers. -/
  | tracks (tasks : List TrackTask)
  /-- The settings of a lightning node. -/
  | settings (progress :
      Progress Question Question.Answer InquiryFlight (Except Service.Fault (List String)))
  /-- The end of a feed. -/
  | closing (feed : Nat)

/-- What a look shows, with another kind of flight. -/
def liftLook {α F G : Type} (wrap : F → G) : Look α F → Look α G
  | .answered a => .answered a
  | .waiting f => .waiting (wrap f)
  | .crashed text => .crashed text

/-- What a look shows, with another answer. -/
def mapLook {α β F : Type} (f : α → β) : Look α F → Look β F
  | .answered a => .answered (f a)
  | .waiting flight => .waiting flight
  | .crashed text => .crashed text

namespace World

/-! ### Statuses -/

/-- Looks at the status of one service. -/
def lookStatus (service : Nat) (flight : Option DeedFlight) (w : World) :
    Look String DeedFlight × World :=
  let task :=
    match flight with
    | some (.status task) => task
    | _ => w.statusTask (w.now + w.timeout) service
  match Reading.look pollStatus task.deadline w.now (.inl task) w with
  | (.inl task, w) => (.waiting (.status task), w)
  | (.inr (.crashed text), w) => (.crashed text, w)
  | (.inr ending, w) => (.answered ending.report, w)

/-- Looks at the status of every service. The tasks begin in the background. -/
def lookRound (deadline : Nat) (flight : Option DeedFlight) (w : World) :
    Look (Dict String) DeedFlight × World :=
  let (r, w) :=
    match flight with
    | some (.round r) => r.look pollStatus w.now w
    | _ => (w.round deadline, w)
  match r.result? with
  | some statuses => (.answered statuses, w)
  | none => (.waiting (.round r), w)

/-! ### The engine -/

/-- What is under way at the engine. -/
def engineFlight : Option DeedFlight → Option StagedEngine.Flight
  | some (.engine f) => some f
  | _ => none

/-- Looks at the log of a service. -/
def lookLog (service : Nat) (since tail : Option String) (flight : Option DeedFlight) (w : World) :
    Look (Except Service.Fault (List String)) DeedFlight × World :=
  match flight with
  | some .silent => (.waiting .silent, w)
  | _ =>
    match w.openLog (w.containerOf service) ⟨since, tail, false⟩ (engineFlight flight) with
    | (.waiting f, w) => (.waiting (.engine f), w)
    | (.crashed text, w) => (.crashed text, w)
    | (.answered (.error fault), w) => (.answered (.error (.engine fault)), w)
    | (.answered (.ok log), w) =>
      match log.all? with
      | some lines => (.answered (lines.mapError .engine), w)
      | none => (.waiting .silent, w)

/-- Looks at a command. -/
def lookExec (service : Nat) (command : List String) (terminal : Bool)
    (flight : Option DeedFlight) (w : World) :
    Look (Except Engine.Fault Engine.ExecResult) DeedFlight × World :=
  let (l, w) := w.exec (w.containerOf service) command terminal (engineFlight flight)
  (liftLook .engine l, w)

/-- What a look at several procedures shows. -/
def judgeTracks (tasks : List TrackTask) : Look Unit DeedFlight :=
  if Progress.anyCrashed tasks then .crashed none
  else if Progress.allOver tasks then .answered ()
  else .waiting (.tracks tasks)

/-- Looks at several procedures that follow the containers. -/
def lookTracks (start : List (Stack.Tracking Unit)) (flight : Option DeedFlight) (w : World) :
    Look Unit DeedFlight × World :=
  let tasks :=
    match flight with
    | some (.tracks tasks) => tasks
    | _ => start.map .ofPlan
  let (tasks, w) := Progress.resumeAll lookTrack tasks w
  (judgeTracks tasks, w)

/-- Looks at bringing a service up to date. -/
def lookRefresh (service : Nat) (flight : Option DeedFlight) (w : World) :
    Look (Except Engine.Fault Unit) DeedFlight × World :=
  match w.inspect (w.containerOf service) (engineFlight flight) with
  | (.waiting f, w) => (.waiting (.engine f), w)
  | (.crashed text, w) => (.crashed text, w)
  | (.answered (.error fault), w) => (.answered (.error fault), w)
  | (.answered (.ok record), w) => (.answered (.ok ()), w.take service record)

/-! ### Services and launchers -/

/-- What is under way at a service. -/
def inquiryFlight : Option DeedFlight → Option InquiryFlight
  | some (.inquiry f) => some f
  | _ => none

/-- The method of a call of a trading daemon. -/
def tradingMethod : Service.Trading.Call → String
  | .info => "get_info"
  | .balance _ => "get_balance"
  | .create _ => "create_node"
  | .unlock _ => "unlock_node"

/-- What is kept of the arguments of a call of a trading daemon. -/
def tradingArguments : Service.Trading.Call → Json
  | .info => .null
  | .balance currency => Json.ofText? currency
  | .create password | .unlock password => .str password

/-- Looks at a call of a trading daemon. -/
def lookTrading (service : Nat) (call : Service.Trading.Call) (flight : Option DeedFlight)
    (w : World) : Look (Except Upstream.Fault call.Answer) DeedFlight × World :=
  let (l, w) := w.callService (w.nameOf service) (tradingMethod call) (tradingArguments call)
    .noClient (Replies.asTrading call) (inquiryFlight flight)
  (liftLook .inquiry l, w)

/-- Looks at a call of a lightning node. -/
def lookLightning (service : Nat) (flight : Option DeedFlight) (w : World) :
    Look (Except Upstream.Fault Service.Lightning.Info) DeedFlight × World :=
  let (l, w) := w.callService (w.nameOf service) "get_info" .null .noClient Replies.asLightning
    (inquiryFlight flight)
  (liftLook .inquiry l, w)

/-- What has become of an errand. -/
def judgeErrand (call : Launcher.Call) :
    Launcher.Fate → Look (Except Launcher.Fault Json) DeedFlight
  | .ended outcome => .answered outcome
  | .underWay => .waiting (.launcher call)

/-- Looks at an errand of a launcher. -/
def lookLauncher (errand : Launcher.Errand) (flight : Option DeedFlight) (w : World) :
    Look (Except Launcher.Fault Json) DeedFlight × World :=
  match flight with
  | some (.launcher call) =>
    let (fate, roster) := call.poll w.now w.roster
    (judgeErrand call fate, { w with roster := roster })
  | _ =>
    match Launcher.Call.begin w.now (w.now + w.timeout) errand w.roster with
    | (.inl outcome, roster) => (.answered outcome, { w with roster := roster })
    | (.inr call, roster) => (.waiting (.launcher call), { w with roster := roster })

/-- Looks at the settings of a lightning node. -/
def lookSettings (path key : String) (flight : Option DeedFlight) (w : World) :
    Look (Except Service.Fault (List String)) DeedFlight × World :=
  let progress :=
    match flight with
    | some (.settings progress) => progress
    | _ => .ofPlan (Service.Lightning.settings path key)
  match progress.resume (lookInquiry w.now 0) w with
  | (.ended values, w) => (.answered values, w)
  | (.crashed text, w) => (.crashed text, w)
  | (progress, w) => (.waiting (.settings progress), w)

/-! ### The stack -/

/-- Begins to follow the log of a service. -/
def follow (service : Nat) (since tail : Option String) (w : World) : Nat × World :=
  (w.followers.length,
    { w with
      followers := w.followers ++ [⟨Service.Follower.start since tail, service, none, none⟩] })

/-- The fault with which a service closes, if it does so badly. -/
def closeFault? (s : Service) : Option Service.Fault :=
  match s.kind with
  | .understudy _ true => some (.sibling s.name)
  | _ => none

/-- Closes a service. -/
def closeService (service : Nat) (w : World) : Option Service.Fault × World :=
  ((w.registry.get? service).bind closeFault?,
    w.count service fun t => { t with closes := t.closes + 1 })

/-- Whether a feed is over. -/
def feedOver (n : Nat) (w : World) : Bool :=
  match w.feeds[n]? with
  | some t => t.feed.isOver
  | none => true

/-- Looks at closing the stack: the services are closed once the feed in charge is over. `close`
closes a service. -/
def lookClosing (close : Nat → World → Option Service.Fault × World) (flight : Option DeedFlight)
    (w : World) : Look (Except Stack.Fault Unit) DeedFlight × World :=
  let (awaited, w) : Option Nat × World :=
    match flight with
    | some (.closing n) => (some n, w)
    | _ => (w.chief, { w with stopped := true, chief := none })
  match awaited with
  | some n =>
    if w.feedOver n then
      let (result, w) := Stack.closeAll close w.registry w
      (.answered result, w)
    else (.waiting (.closing n), w)
  | none =>
    let (result, w) := Stack.closeAll close w.registry w
    (.answered result, w)

/-- Looks at closing the stack. -/
def lookClose (flight : Option DeedFlight) (w : World) :
    Look (Except Stack.Fault Unit) DeedFlight × World :=
  w.lookClosing closeService flight

/-! ### All of it -/

/-- The answers to what the handling of a request asks for. Nobody answers for the swap service. -/
def lookApi : (q : Api.Question) → Option DeedFlight → World → Look q.Answer DeedFlight × World
  | .status service, flight, w => w.lookStatus service flight
  | .statuses, flight, w => w.lookRound (w.now + w.timeout) flight
  | .log service since tail, flight, w => w.lookLog service since tail flight
  | .follow service since tail, _, w =>
    let (n, w) := w.follow service since tail
    (.answered n, w)
  | .launcher errand, flight, w => w.lookLauncher errand flight
  | .trading service call, flight, w => w.lookTrading service call flight
  | .swap .., _, w => (.answered (.error .noClient), w)

/-- The answers to deeds. -/
def lookDeed : (d : Deed) → Option DeedFlight → World → Look d.Answer DeedFlight × World
  | .api q, flight, w => w.lookApi q flight
  | .statuses deadline, flight, w => w.lookRound deadline flight
  | .sync, flight, w => w.lookTracks (Stack.syncs w.registry) flight
  | .handle event, flight, w => w.lookTracks [Stack.handle w.registry event] flight
  | .refresh service, flight, w => w.lookRefresh service flight
  | .exec service command terminal, flight, w => w.lookExec service command terminal flight
  | .lightning service, flight, w => w.lookLightning service flight
  | .settings path key, flight, w => w.lookSettings path key flight
  | .close, flight, w => w.lookClose flight

end World

/-! ### Timers -/

/-- When a command goes on by itself. -/
def CommandFlight.timers : CommandFlight → List Nat
  | .underWay (some f) => [f.due]
  | _ => []

/-- When what is under way for a question goes on by itself. -/
def InquiryFlight.timers : InquiryFlight → List Nat
  | .file => []
  | .call f => f.due.toList
  | .commands a b => a.timers ++ b.timers
  | .act due => due.toList

/-- When the status of a service goes on by itself, or is given up. -/
def StatusTask.timers (t : StatusTask) : List Nat :=
  t.deadline :: (t.progress.flight?.map InquiryFlight.timers).getD []

/-- When a procedure that follows the containers goes on by itself. -/
def trackTimers (t : TrackTask) : List Nat := (t.flight?.map (·.due)).toList

/-- When a round goes on by itself, or is given up. -/
def roundTimers (r : Round StatusTask) : List Nat :=
  r.deadline :: (r.deadline + Stack.grace) :: r.awaited.flatMap fun
    | (_, .inl t) => t.timers
    | (_, .inr _) => []

/-- When what is under way for a deed goes on by itself. -/
def DeedFlight.timers : DeedFlight → List Nat
  | .status t => t.timers
  | .round r => roundTimers r
  | .engine f => [f.due]
  | .silent => []
  | .launcher call => [call.deadline]
  | .inquiry f => f.timers
  | .tracks tasks => tasks.flatMap trackTimers
  | .settings progress => (progress.flight?.map InquiryFlight.timers).getD []
  | .closing _ => []

end NodeStack.Scenario
