import NodeStack.Setup.Entry

/-!
# `NodeStack.Setup.Journal`: the entries of the setup and those who read them

- `Journal`: the progress, the last entries kept for replay, and the last ones kept for readers.
- `Journal.line`: takes in a line of the setup log.
- `Journal.replay`, `Journal.reader`: what a subscriber is given of the past, and where it begins.
- `Journal.read`: the next thing a reader gets: an entry, the number of entries it has missed, or
  nothing yet.
-/

set_option autoImplicit false

namespace NodeStack.Setup

/-- How many entries are kept for replay. -/
def historyLimit : Nat := 100

/-- How many entries are kept for readers: the limit rounded up to a power of two. -/
def readerLimit : Nat := 128

/-- The entries of the setup. -/
structure Journal where
  progress : Progress
  /-- The last entries, at most `historyLimit`. -/
  history : List Entry
  /-- The last entries, at most `readerLimit`. -/
  recent : List Entry
  /-- How many entries there have been. -/
  total : Nat
  deriving Repr

/-- The last `n` items of a list. -/
def lastOf {α : Type} (n : Nat) (xs : List α) : List α :=
  xs.drop (xs.length - n)

/-- A reader, by the number of entries that are behind it. -/
structure Reader where
  position : Nat
  deriving Repr, DecidableEq

/-- What a reader gets. -/
inductive News where
  /-- The next entry. -/
  | entry (e : Entry)
  /-- So many entries were dropped before the reader came to them. -/
  | missed (count : Nat)
  deriving Repr, DecidableEq

namespace Journal

/-- A journal without entries. -/
def empty : Journal := ⟨.unknown, [], [], 0⟩

/-- Adds an entry. -/
def add (e : Entry) (j : Journal) : Journal :=
  { j with
    history := lastOf historyLimit (j.history ++ [e])
    recent := lastOf readerLimit (j.recent ++ [e])
    total := j.total + 1 }

/-- Takes in a line of the setup log. A line that announces nothing changes nothing. -/
def line (text : String) (j : Journal) : Journal :=
  match Entry.ofLine? text with
  | none => j
  | some (progress, e) => add e { j with progress := progress }

/-- The past entries a subscriber is given: the last `count`, all that are kept for `-1`, none for
other negative numbers. -/
def replay (count : Int) (j : Journal) : List Entry :=
  if 0 ≤ count then lastOf count.toNat j.history
  else if count = -1 then j.history
  else []

/-- A reader of the entries to come. -/
def reader (j : Journal) : Reader := ⟨j.total⟩

/-- The number of the oldest entry that is kept for readers. -/
def oldest (j : Journal) : Nat := j.total - j.recent.length

/-- What a reader gets next, and the reader after it; nothing if it has read all. -/
def read (r : Reader) (j : Journal) : Option (News × Reader) :=
  if r.position < j.oldest then
    some (.missed (j.oldest - r.position), ⟨j.oldest⟩)
  else
    (j.recent[r.position - j.oldest]?).map fun e => (.entry e, ⟨r.position + 1⟩)

/-- All a reader gets until it has read everything, in at most `fuel` reads. -/
def readUpTo : (fuel : Nat) → Reader → Journal → List News × Reader
  | 0, r, _ => ([], r)
  | fuel + 1, r, j =>
    match j.read r with
    | none => ([], r)
    | some (news, r) =>
      let (rest, r) := readUpTo fuel r j
      (news :: rest, r)

/-- All a reader gets until it has read everything. -/
def readAll (r : Reader) (j : Journal) : List News × Reader :=
  readUpTo (j.recent.length + 1) r j

end Journal

end NodeStack.Setup
