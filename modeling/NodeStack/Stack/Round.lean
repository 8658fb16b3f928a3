import NodeStack.Dict

/-!
# `NodeStack.Stack.Round`: finding out the status of every service at once

- `Ending`: how the computation of one status ended, with the text it is reported as.
- `Round`: the computations, those that are awaited and what is reported of the others.
- `Round.look`: looks at each of them; one that is under way when the deadline comes is given up.
- `Round.await`: goes past those that have ended, one after the other; when the grace is over, past
  all of them.
- `Round.result?`: the statuses, once no computation is awaited any more.
-/

set_option autoImplicit false

namespace NodeStack.Stack

/-- How the computation of a status ended. -/
inductive Ending where
  /-- With the status. -/
  | text (status : String)
  /-- It broke down, perhaps with a text. -/
  | crashed (message : Option String)
  /-- It was not over in time. -/
  | late
  deriving Repr, DecidableEq

/-- What is reported of a computation that was not over in time. -/
def lateText : String := "Error: timeout"

/-- What is reported of a computation that broke down. -/
def crashText (message : Option String) : String := "Error: " ++ message.getD "panic"

/-- What is reported as the status. -/
def Ending.report : Ending → String
  | .text status => status
  | .crashed message => crashText message
  | .late => lateText

/-- How long after the deadline a round is given up, in milliseconds. -/
def grace : Nat := 100

/-- The computation of a status: under way, or ended. -/
abbrev Reading (α : Type) := α ⊕ Ending

/-- Looks at a computation at the time `now`; one that goes on when the deadline comes is late. -/
def Reading.look {α σ : Type} (poll : α → σ → Reading α × σ) (deadline now : Nat) :
    Reading α → σ → Reading α × σ
  | .inr ending, s => (.inr ending, s)
  | .inl task, s =>
    match poll task s with
    | (.inl task, s) => (if deadline ≤ now then .inr .late else .inl task, s)
    | (.inr ending, s) => (.inr ending, s)

/-- The computations of the status of every service. -/
structure Round (α : Type) where
  /-- When a computation is given up. -/
  deadline : Nat
  /-- The computations that are awaited, in the order of the services. -/
  awaited : List (String × Reading α)
  /-- What is reported of those that were awaited. -/
  reported : Dict String

namespace Round

variable {α σ : Type}

/-- Looks at some computations in order. -/
def lookAll (poll : α → σ → Reading α × σ) (deadline now : Nat) :
    List (String × Reading α) → σ → List (String × Reading α) × σ
  | [], s => ([], s)
  | (name, reading) :: rest, s =>
    let (reading, s) := reading.look poll deadline now s
    let (rest, s) := lookAll poll deadline now rest s
    ((name, reading) :: rest, s)

/-- Awaits some computations in order. One that goes on is given up if `isLate`; else the
ones after it have to wait. -/
def awaitAll (isLate : Bool) :
    List (String × Reading α) → Dict String → List (String × Reading α) × Dict String
  | [], reported => ([], reported)
  | (name, .inr ending) :: rest, reported =>
    awaitAll isLate rest (reported.put name ending.report)
  | (name, .inl task) :: rest, reported =>
    if isLate then awaitAll isLate rest (reported.put name Ending.late.report)
    else ((name, .inl task) :: rest, reported)

/-- Awaits the computations, as far as they have ended at the time `now`. -/
def await (now : Nat) (r : Round α) : Round α :=
  let (awaited, reported) := awaitAll (r.deadline + grace ≤ now) r.awaited r.reported
  { r with awaited := awaited, reported := reported }

/-- A round that begins at the time `now`. Nothing is looked at before the first is awaited. -/
def start (deadline now : Nat) (tasks : List (String × α)) : Round α :=
  await now ⟨deadline, tasks.map fun (name, task) => (name, .inl task), []⟩

/-- Looks at every computation at the time `now`, and awaits them. -/
def look (poll : α → σ → Reading α × σ) (now : Nat) (r : Round α) (s : σ) : Round α × σ :=
  let (readings, s) := lookAll poll r.deadline now r.awaited s
  (await now { r with awaited := readings }, s)

/-- The statuses, once no computation is awaited any more. -/
def result? (r : Round α) : Option (Dict String) :=
  if r.awaited.isEmpty then some r.reported else none

end Round

end NodeStack.Stack
