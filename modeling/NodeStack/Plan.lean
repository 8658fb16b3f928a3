/-!
# `NodeStack.Plan`: procedures that ask questions

- `Plan`: a procedure that ends with a value after any number of questions, each of which depends on
  the answers before it.
- `Plan.bind`: one procedure after another.
- `Plan.run`: the outcome and the questions, when every question is answered at once.
- `Plan.advance`: goes on as far as the answers are there. What is under way meanwhile is kept
  beside the procedure.
- `Progress`: how far a procedure has come; `Progress.resume` lets it go on, and
  `Progress.resumeAll` several of them.
-/

set_option autoImplicit false

namespace NodeStack

/-- A procedure that asks questions of type `Q`, the question `q` having answers of type `A q`. -/
inductive Plan (Q : Type) (A : Q → Type) (α : Type) where
  /-- The procedure ends. -/
  | done (value : α)
  /-- The procedure asks a question and goes on with the answer. -/
  | ask (question : Q) (next : A question → Plan Q A α)

namespace Plan

variable {Q : Type} {A : Q → Type} {α β : Type}

/-- One procedure after another. -/
def bind : Plan Q A α → (α → Plan Q A β) → Plan Q A β
  | .done a, f => f a
  | .ask q next, f => .ask q fun answer => (next answer).bind f

/-- A single question. -/
def question (q : Q) : Plan Q A (A q) := .ask q .done

instance : Monad (Plan Q A) where
  pure := .done
  bind := Plan.bind

/-- The outcome of a procedure and its questions, when every question is answered at once. -/
def run (answer : (q : Q) → A q) : Plan Q A α → α × List Q
  | .done a => (a, [])
  | .ask q next =>
    let (a, qs) := (next (answer q)).run answer
    (a, q :: qs)

/-- What a look at an open question shows. -/
inductive Look (α F : Type) where
  /-- The answer is there. -/
  | answered (answer : α)
  /-- It is still under way. -/
  | waiting (flight : F)
  /-- Finding it out broke down, perhaps with a text. -/
  | crashed (text : Option String)

/-- How far a procedure has come. -/
inductive Progress (Q : Type) (A : Q → Type) (F α : Type) where
  /-- It has ended. -/
  | ended (value : α)
  /-- It goes on once its first question is answered; something may be under way for that. -/
  | waiting (plan : Plan Q A α) (flight : Option F)
  /-- It broke down, perhaps with a text. -/
  | crashed (text : Option String)

/-- Goes on as far as the answers are there. `look` looks at an open question, given what is under
way for it; there is nothing under way for a question that has just come up. -/
def advance {σ F : Type} (look : (q : Q) → Option F → σ → Look (A q) F × σ) :
    Plan Q A α → Option F → σ → Progress Q A F α × σ
  | .done a, _, s => (.ended a, s)
  | .ask q next, flight, s =>
    match look q flight s with
    | (.answered a, s) => (next a).advance look none s
    | (.waiting f, s) => (.waiting (.ask q next) (some f), s)
    | (.crashed text, s) => (.crashed text, s)

/-- The procedure that asks the questions of another as questions of a wider kind. -/
def widen {Q' : Type} {A' : Q' → Type} (f : Q → Q') (g : (q : Q) → A' (f q) → A q) :
    Plan Q A α → Plan Q' A' α
  | .done a => .done a
  | .ask q next => .ask (f q) fun answer => (next (g q answer)).widen f g

namespace Progress

variable {σ F : Type}

/-- A procedure that has not begun. -/
def ofPlan (plan : Plan Q A α) : Progress Q A F α := .waiting plan none

/-- Goes on as far as the answers are there. -/
def resume (look : (q : Q) → Option F → σ → Look (A q) F × σ) :
    Progress Q A F α → σ → Progress Q A F α × σ
  | .waiting plan flight, s => plan.advance look flight s
  | other, s => (other, s)

/-- What is under way. -/
def flight? : Progress Q A F α → Option F
  | .waiting _ flight => flight
  | _ => none

/-- Whether the procedure has ended or broken down. -/
def isOver : Progress Q A F α → Bool
  | .waiting .. => false
  | _ => true

/-- Lets several procedures go on, one after the other. -/
def resumeAll (look : (q : Q) → Option F → σ → Look (A q) F × σ) :
    List (Progress Q A F α) → σ → List (Progress Q A F α) × σ
  | [], s => ([], s)
  | t :: rest, s =>
    let (t, s) := t.resume look s
    let (rest, s) := resumeAll look rest s
    (t :: rest, s)

/-- Whether one of several procedures broke down. -/
def anyCrashed (tasks : List (Progress Q A F α)) : Bool :=
  tasks.any fun
    | .crashed _ => true
    | _ => false

/-- Whether several procedures have ended. -/
def allOver (tasks : List (Progress Q A F α)) : Bool := tasks.all (·.isOver)

end Progress

end Plan

end NodeStack
