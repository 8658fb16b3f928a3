import NodeStack.Json.Tree
import NodeStack.Launcher.Roster

/-!
# `NodeStack.Launcher.Call`: calls to a launcher, with a deadline

- `Errand`: what a launcher is asked for.
- `Call`: a call under way.
- `Call.begin`: starts a call, on a session or on the one attached longest.
- `Call.poll`: looks at a call: how it ended, if it did.
- `Call.cancel`: gives a call up.

A call that is over has left its session: it is neither pending there nor waiting for a place in the
outbox.
-/

set_option autoImplicit false

namespace NodeStack.Launcher

/-- What a launcher is asked for. -/
inductive Errand where
  /-- Information about the stack. -/
  | info
  /-- To put backups in another place. -/
  | backup (location : String)
  deriving Repr, DecidableEq

namespace Errand

/-- The method an errand calls. -/
def method : Errand → String
  | .info => "getinfo"
  | .backup _ => "backupto"

/-- The parameters of the call. -/
def params : Errand → Json
  | .info => .arr []
  | .backup location => .arr [.str location]

/-- What an errand makes of the result of its call. Information may come as a JSON text. -/
def interpret : Errand → Json → Except Fault Json
  | .info, .str text =>
    match Json.parse? text with
    | some value => .ok value
    | none => .error (.malformed Json.unreadable)
  | .info, value => .ok value
  | .backup _, _ => .ok .null

end Errand

/-- A call under way. -/
structure Call where
  session : Nat
  /-- The id of the call on its session. -/
  id : Nat
  errand : Errand
  /-- When the call is given up. -/
  deadline : Nat
  deriving Repr, DecidableEq

/-- What became of a call: it goes on, or it ended. -/
inductive Fate where
  | underWay
  | ended (outcome : Except Fault Json)

namespace Call

/-- How a call ends that was answered. -/
def conclude (errand : Errand) (response : Exchange.Response) : Except Fault Json :=
  match response.outcome with
  | .error cause => .error (.exchange cause)
  | .ok value => errand.interpret value

/-- What a call comes to that has come so far at the time `now`: a call that is not over when its
deadline comes is given up. -/
def judge (now : Nat) (c : Call) (progress : Exchange.Progress) (r : Roster) : Fate × Roster :=
  match progress with
  | .answered response => (.ended (conclude c.errand response), r)
  | .failed cause => (.ended (.error (.exchange cause)), r)
  | .blocked | .sent | .waiting =>
    if c.deadline ≤ now then
      (.ended (.error .timeout), r.modify c.session (Exchange.drop c.id))
    else (.underWay, r)

/-- Looks at a call on its exchange; one that has just been sent is looked at once more. -/
def look (id : Nat) (x : Exchange) : Exchange.Progress × Exchange :=
  match x.poll id with
  | (.sent, x) => x.poll id
  | other => other

/-- Looks at a call at the time `now`. -/
def poll (now : Nat) (c : Call) (r : Roster) : Fate × Roster :=
  let (progress, r) := r.onSession c.session (.failed .closed) (look c.id)
  c.judge now progress r

/-- Starts an errand on an exchange. -/
def startOn (errand : Errand) (x : Exchange) : Option Nat × Exchange :=
  let (id, _, x) := x.start errand.method errand.params
  (id, x)

/-- Starts a call on a session at the time `now`: how it ended at once, or the call. -/
def beginOn (now deadline : Nat) (session : Nat) (errand : Errand) (r : Roster) :
    (Except Fault Json ⊕ Call) × Roster :=
  match r.onSession session none (startOn errand) with
  | (none, r) => (.inl (.error (.exchange .closed)), r)
  | (some id, r) =>
    let call : Call := ⟨session, id, errand, deadline⟩
    match call.poll now r with
    | (.ended outcome, r) => (.inl outcome, r)
    | (.underWay, r) => (.inr call, r)

/-- Starts a call on the session that has been attached longest. -/
def begin (now deadline : Nat) (errand : Errand) (r : Roster) :
    (Except Fault Json ⊕ Call) × Roster :=
  match r.first with
  | none => (.inl (.error .noLauncher), r)
  | some session => beginOn now deadline session errand r

/-- Gives a call up. -/
def cancel (c : Call) (r : Roster) : Roster :=
  r.modify c.session (Exchange.drop c.id)

end Call

end NodeStack.Launcher
