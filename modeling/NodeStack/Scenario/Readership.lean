import NodeStack.Setup.Journal

/-!
# `NodeStack.Scenario.Readership`: a journal whose readers have names

- `Readership`: a journal, and the reader of each name.
- `Readership.lines`: takes in a line several times.
- `Readership.subscribe`, `Readership.receive?`: what a reader gets of the past, and of what came
  since.
-/

set_option autoImplicit false

namespace NodeStack.Scenario

open Setup (Entry Journal News Reader)

/-- A journal, and the reader of each name. -/
structure Readership where
  journal : Journal
  readers : Dict Reader

namespace Readership

/-- A journal without readers. -/
def empty : Readership := ⟨Journal.empty, []⟩

/-- Takes in a line so many times. -/
def lines (text : String) : (times : Nat) → Readership → Readership
  | 0, r => r
  | times + 1, r => lines text times { r with journal := r.journal.line text }

/-- A new reader, and what it gets of the past. -/
def subscribe (name : String) (count : Int) (r : Readership) : List Entry × Readership :=
  (r.journal.replay count, { r with readers := r.readers.put name r.journal.reader })

/-- What a reader gets of what came since, if there is one of that name. -/
def receive? (name : String) (r : Readership) : Option (List News) × Readership :=
  match r.readers.get? name with
  | none => (none, r)
  | some reader =>
    let (news, reader) := r.journal.readAll reader
    (some news, { r with readers := r.readers.put name reader })

end Readership

end NodeStack.Scenario
