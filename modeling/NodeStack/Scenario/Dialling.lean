import NodeStack.Link.Basic

/-!
# `NodeStack.Scenario.Dialling`: a link over a scripted dialler, on a clock of its own

- `Attempt`: how a dial goes: after a delay it succeeds, fails, crashes, or never ends.
- `Dialling`: a link with the script of its dials.
- `Dialling.settle`: everything that can happen now happens.
- `Dialling.advance`: time passes, timer by timer.
- `Dialling.open_`, `Dialling.close`, `Dialling.update`, `Dialling.breakLink`: what callers and the
  network do. A close waits for the loop in charge; nothing else is waited for.
-/

set_option autoImplicit false

namespace NodeStack.Scenario

/-- How a dial ends. -/
inductive DialOutcome where
  | success
  | failure
  | never
  | crash
  deriving Repr, DecidableEq

/-- How a dial goes. -/
structure Attempt where
  /-- How long it takes until it ends. -/
  delay : Nat
  outcome : DialOutcome
  deriving Repr, DecidableEq

/-- A dial under way. -/
structure Dial where
  /-- When it ends, unless it never does. -/
  due : Nat
  outcome : DialOutcome
  /-- The number of the attempt, which a client takes over. -/
  number : Nat
  deriving Repr, DecidableEq

/-- A link over a scripted dialler. -/
structure Dialling where
  now : Nat
  link : Link
  /-- How the dials to come go; those after the last succeed at once. -/
  script : List Attempt
  /-- How many dials there have been. -/
  attempts : Nat
  /-- When each target was dialled, oldest first. -/
  log : List (Nat × String)
  /-- The dialler always succeeds, keeps no log, and its links never break. -/
  eternal : Bool
  /-- The dial of each loop. -/
  dials : Table Dial
  /-- The loops whose live link is broken, and that have not noticed it. -/
  broken : List Nat

namespace Dialling

/-- A link that nobody has opened, with a script. -/
def ofScript (link : Link) (script : List Attempt) (eternal : Bool) : Dialling :=
  ⟨0, link, script, 0, [], eternal, Table.empty, []⟩

/-- The attempt that comes next. -/
def nextAttempt (d : Dialling) : Attempt :=
  match d.script with
  | [] => ⟨0, .success⟩
  | a :: _ => if d.eternal then ⟨0, .success⟩ else a

/-- A loop begins its next dial. -/
def dial (n : Nat) (target : String) (d : Dialling) : Dialling :=
  let a := d.nextAttempt
  { d with
    link := d.link.dial n
    script := d.script.tail
    attempts := d.attempts + 1
    log := if d.eternal then d.log else d.log ++ [(d.now, target)]
    dials := d.dials.set n ⟨d.now + a.delay, a.outcome, d.attempts + 1⟩ }

/-- A loop's dial ends, if it is due. -/
def endDial (n : Nat) (d : Dialling) : Option Dialling :=
  match d.dials.get? n with
  | some dial =>
    if dial.due ≤ d.now then
      match dial.outcome with
      | .success => some { d with link := d.link.dialled n dial.number }
      | .failure => some { d with link := d.link.refused n d.now }
      | .crash => some { d with link := d.link.crashed n }
      | .never => none
    else none
  | none => none

/-- A loop notices that its live link is broken, if it is. -/
def notice (n : Nat) (d : Dialling) : Option Dialling :=
  if d.broken.contains n then
    some { d with link := d.link.broke n, broken := d.broken.filter (· != n) }
  else none

/-- What a loop can do now, if anything. A loop that was told to stop does that first. -/
def stepLoop (n : Nat) (d : Dialling) : Option Dialling :=
  match d.link.loops.get? n with
  | none => none
  | some l =>
    if l.finished then none
    else if l.told then some { d with link := d.link.stop n }
    else
      match l.phase with
      | .ready => some (d.dial n l.target)
      | .dialling => d.endDial n
      | .linked _ => d.notice n
      | .resting wake => if wake ≤ d.now then some { d with link := d.link.rested n } else none
      | _ => none

/-- The first thing that some loop can do now. -/
def step (d : Dialling) : Option Dialling :=
  (List.range d.link.count).findSome? d.stepLoop

/-- Everything that can happen now happens, in at most `fuel` steps. -/
def settleWithin : (fuel : Nat) → Dialling → Dialling
  | 0, d => d
  | fuel + 1, d =>
    match d.step with
    | some d => settleWithin fuel d
    | none => d

/-- More steps than can happen at one point in time: each dial takes an attempt from the script, and
after the script a loop comes to rest. -/
def settleBound (d : Dialling) : Nat := 4 * (d.script.length + d.link.count + 1)

/-- Everything that can happen now happens. -/
def settle (d : Dialling) : Dialling := d.settleWithin d.settleBound

/-- When a loop's timer goes off, if it waits for one. -/
def timer (n : Nat) (d : Dialling) : Option Nat :=
  match d.link.loops.get? n, d.dials.get? n with
  | some ⟨_, .resting wake, _⟩, _ => some wake
  | some ⟨_, .dialling, _⟩, some ⟨_, .never, _⟩ => none
  | some ⟨_, .dialling, _⟩, some dial => some dial.due
  | _, _ => none

/-- When the next timer goes off. -/
def nextTimer (d : Dialling) : Option Nat :=
  ((List.range d.link.count).filterMap d.timer).min?

/-- Time passes up to `target`, from timer to timer, in at most `fuel` of them. -/
def passWithin : (fuel : Nat) → (target : Nat) → Dialling → Dialling
  | 0, target, d => { d with now := target }
  | fuel + 1, target, d =>
    match d.nextTimer with
    | some t =>
      if t ≤ target then passWithin fuel target { d with now := max t d.now }.settle
      else { d with now := target }
    | none => { d with now := target }

/-- Time passes, and everything that can happen meanwhile happens. -/
def advance (ms : Nat) (d : Dialling) : Dialling :=
  (d.passWithin (2 * (d.script.length + d.link.count + 1)) (d.now + ms)).settle

/-- Opens the link. -/
def open_ (d : Dialling) : Dialling := { d with link := d.link.open_ }

/-- Closes the link, waiting for the loop in charge. -/
def close (d : Dialling) : Except Upstream.LinkFault Unit × Dialling :=
  match d.link.beginClose with
  | (none, link) =>
    let (result, link) := link.endClose none
    (result, { d with link := link })
  | (some n, link) =>
    let d := { d with link := link }.settle
    let (result, link) := d.link.endClose (some n)
    (result, { d with link := link })

/-- Gives the link another target: the link is closed, and opened again unless that fails. -/
def update (target : String) (d : Dialling) : Except Upstream.LinkFault Unit × Dialling :=
  match { d with link := d.link.retarget target }.close with
  | (.ok (), d) => (.ok (), d.open_)
  | failed => failed

/-- The loop that holds a live link. -/
def linkedLoop (d : Dialling) : Option Nat :=
  (List.range d.link.count).find? fun n =>
    match d.link.phase n with
    | some (.linked _) => true
    | _ => false

/-- The live link breaks, if there is one. -/
def breakLink (d : Dialling) : Dialling :=
  if d.eternal then d
  else
    match d.linkedLoop with
    | some n => { d with broken := n :: d.broken }
    | none => d

end Dialling

end NodeStack.Scenario
