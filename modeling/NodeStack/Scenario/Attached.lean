import NodeStack.Launcher.Call

/-!
# `NodeStack.Scenario.Attached`: launchers and calls to them, on a clock of its own

- `Attached`: the launchers, and the calls that were started, by their names.
- `Attached.settle`: every call that can go on does.
- `Attached.advance`: time passes, deadline by deadline.
-/

set_option autoImplicit false

namespace NodeStack.Scenario

open NodeStack.Launcher

/-- A call that was started. -/
inductive CallTask where
  | underWay (call : Launcher.Call)
  | ended (outcome : Except Launcher.Fault Json)

/-- The launchers, and the calls that were started. -/
structure Attached where
  now : Nat
  roster : Roster
  /-- The calls, in the order in which they were started; nothing where one was cancelled. -/
  tasks : List (Option CallTask)
  /-- The session of each launcher that has a name. -/
  sessions : Dict Nat
  /-- The place of each call that has a name. -/
  calls : Dict Nat

namespace Attached

/-- No launchers and no calls. -/
def empty : Attached := ⟨0, Roster.empty, [], [], []⟩

/-- Looks at one call. -/
def pollTask (now : Nat) (task : Option CallTask) (r : Roster) : Option CallTask × Roster :=
  match task with
  | some (.underWay call) =>
    match call.poll now r with
    | (.ended outcome, r) => (some (.ended outcome), r)
    | (.underWay, r) => (some (.underWay call), r)
  | other => (other, r)

/-- Looks at every call once, in order. -/
def pollAll (now : Nat) : List (Option CallTask) → Roster → List (Option CallTask) × Roster
  | [], r => ([], r)
  | task :: rest, r =>
    let (task, r) := pollTask now task r
    let (rest, r) := pollAll now rest r
    (task :: rest, r)

/-- Looks at every call so many times. -/
def settleWithin : (fuel : Nat) → Attached → Attached
  | 0, a => a
  | fuel + 1, a =>
    let (tasks, roster) := pollAll a.now a.tasks a.roster
    settleWithin fuel { a with tasks := tasks, roster := roster }

/-- Every call that can go on does. A call that ends can let each other call go on once. -/
def settle (a : Attached) : Attached := a.settleWithin (a.tasks.length + 1)

/-- When a call is given up. -/
def deadline : Option CallTask → Option Nat
  | some (.underWay call) => some call.deadline
  | _ => none

/-- When the next call is given up. -/
def nextTimer (a : Attached) : Option Nat := (a.tasks.filterMap deadline).min?

/-- Time passes up to `target`, from deadline to deadline, in at most `fuel` of them. -/
def passWithin : (fuel : Nat) → (target : Nat) → Attached → Attached
  | 0, target, a => { a with now := target }
  | fuel + 1, target, a =>
    match a.nextTimer with
    | some t =>
      if t ≤ target then passWithin fuel target { a with now := max t a.now }.settle
      else { a with now := target }
    | none => { a with now := target }

/-- Time passes. -/
def advance (ms : Nat) (a : Attached) : Attached :=
  (a.passWithin (a.tasks.length + 1) (a.now + ms)).settle

/-- Changes the launchers, after which calls go on. -/
def onRoster {α : Type} (f : Roster → α × Roster) (a : Attached) : α × Attached :=
  let (result, roster) := f a.roster
  (result, { a with roster := roster }.settle)

/-- Attaches a launcher whose outbox has so many places, and gives its session. -/
def register (name : String) (capacity : Nat) (a : Attached) : Nat × Attached :=
  let (id, a) := a.onRoster (Roster.register capacity)
  (id, { a with sessions := a.sessions.put name id })

/-- How many calls can still be answered on the session of a launcher, if there is one of that
name. -/
def pending? (name : String) (a : Attached) : Option Nat :=
  ((a.sessions.get? name).bind a.roster.sessions.get?).map (·.pending)

/-- Changes the exchange of a launcher, if there is one of that name. -/
def onSession? {α : Type} (name : String) (default : α) (f : Exchange → α × Exchange)
    (a : Attached) : Option α × Attached :=
  match a.sessions.get? name with
  | none => (none, a)
  | some id =>
    let (result, a) := a.onRoster fun roster => roster.onSession id default f
    (some result, a)

/-- Starts a call, on the session of a launcher or on the one attached longest. -/
def startCall (name : String) (launcher : Option String) (errand : Errand) (timeout : Nat)
    (a : Attached) : Attached :=
  let deadline := a.now + timeout
  let (started, roster) :=
    match launcher.bind a.sessions.get? with
    | some s => Call.beginOn a.now deadline s errand a.roster
    | none => Call.begin a.now deadline errand a.roster
  let task : CallTask :=
    match started with
    | .inl outcome => .ended outcome
    | .inr call => .underWay call
  { a with
    roster := roster
    tasks := a.tasks ++ [some task]
    calls := a.calls.put name a.tasks.length }.settle

/-- Cancels the call in a place. -/
def cancelAt (n : Nat) (a : Attached) : Attached :=
  let roster :=
    match a.tasks[n]? with
    | some (some (.underWay call)) => call.cancel a.roster
    | _ => a.roster
  { a with roster := roster, tasks := a.tasks.set n none }.settle

/-- Cancels a call; whether there is one of that name. -/
def cancel (name : String) (a : Attached) : Bool × Attached :=
  match a.calls.get? name with
  | none => (false, a)
  | some n => (true, { a with calls := a.calls.remove name }.cancelAt n)

/-- How a call ended, if it did and there is one of that name; its name is free then. -/
def outcome? (name : String) (a : Attached) :
    Option (Option (Except Launcher.Fault Json)) × Attached :=
  match a.calls.get? name with
  | none => (none, a)
  | some n =>
    match a.tasks[n]? with
    | some (some (.ended outcome)) => (some (some outcome), { a with calls := a.calls.remove name })
    | _ => (some none, a)

end Attached

end NodeStack.Scenario
