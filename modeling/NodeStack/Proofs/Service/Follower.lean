import NodeStack.Service.Follower

/-!
# `NodeStack.Proofs.Service.Follower`: what a follower of a log passes on

* `relayed`: what a reader hears of a log, its lines and the mark where it ends or breaks off.
* `owed`: what a follower has yet to pass on of the log that it has before it.
* `Goes`: what a follower does by itself; `goes_of_go` says that there is nothing else.
* `hear`: the reader takes some of the lines that wait.

`Follower.opened` is the only thing that adds to what is owed, and `Goes.passes` and `Goes.closes`
are the only ones that take away from it: they put a line into the buffer.
-/

set_option autoImplicit false

namespace NodeStack.Service.Follower

open Engine (Log LogEnd LogRange Record)

/-- What is passed on of a log: its lines up to its end or to where it breaks off, and then the
mark. A log that only falls silent is not marked. -/
def relayed (log : Log) : List String :=
  log.lines ++ if log.ending = .silent then [] else [endMark]

/-- What a follower has yet to pass on of the log that it reads. -/
def owed (f : Follower) : List String :=
  match f.phase with
  | .reading _ log => relayed log
  | .passing _ line rest => line :: rest.elim [] relayed
  | _ => []

/-- The reader takes some of the lines that wait, in order. -/
def hear (count : Nat) (f : Follower) : List String × Follower :=
  (f.buffer.take count, { f with buffer := f.buffer.drop count })

/-- It may take all of them. -/
theorem takeLines_eq_hear (f : Follower) : f.takeLines = f.hear f.buffer.length := by
  rw [takeLines, hear, List.take_length, List.drop_length]

/-- What a follower can do by itself at a time. -/
inductive Goes (now : Nat) (f : Follower) : Follower → Prop where
  /-- It stops. -/
  | ends : Goes now f f.finish
  /-- It has rested. -/
  | wakes (record : Record) (wake : Nat) (hphase : f.phase = .resting record wake)
    (hwake : wake ≤ now) : Goes now f { f with phase := .waiting }
  /-- It reads a line of the log, or that the log is over. -/
  | reads (record : Record) (log : Log) (line : String) (rest : Option Log)
    (hphase : f.phase = .reading record log)
    (hline : relayed log = line :: rest.elim [] relayed) :
    Goes now f { f with phase := .passing record line rest }
  /-- It passes a line of the log on. -/
  | passes (record : Record) (line : String) (log : Log)
    (hphase : f.phase = .passing record line (some log)) (hhere : f.deserted = false) :
    Goes now f { f with phase := .reading record log, buffer := f.buffer ++ [line] }
  /-- It passes on that the log is over, and rests. -/
  | closes (record : Record) (line : String) (hphase : f.phase = .passing record line none)
    (hhere : f.deserted = false) :
    Goes now f ({ f with buffer := f.buffer ++ [line] }.rest record now)

section
variable {now : Nat} {f f' : Follower}

theorem goes_of_readNext {record : Record} {log : Log} (hphase : f.phase = .reading record log)
    (h : f.readNext record log = some f') : Goes now f f' := by
  obtain ⟨lines, ending⟩ := log
  cases lines with
  | cons line lines =>
    obtain rfl := Option.some.inj h
    exact .reads record _ line (some ⟨lines, ending⟩) hphase rfl
  | nil =>
    cases ending with
    | silent => cases h
    | whole =>
      obtain rfl := Option.some.inj h
      exact .reads record _ endMark none hphase rfl
    | broken fault =>
      obtain rfl := Option.some.inj h
      exact .reads record _ endMark none hphase rfl

theorem goes_of_pass {record : Record} {line : String} {rest : Option Log}
    (hphase : f.phase = .passing record line rest) (h : f.pass record line rest now = some f') :
    Goes now f f' := by
  unfold pass at h
  split at h
  · obtain rfl := Option.some.inj h
    exact .ends
  · next hhere =>
    have hhere : f.deserted = false := Bool.eq_false_iff.mpr hhere
    split at h
    · cases rest with
      | some log =>
        obtain rfl := Option.some.inj h
        exact .passes record line log hphase hhere
      | none =>
        obtain rfl := Option.some.inj h
        exact .closes record line hphase hhere
    · cases h

theorem goes_of_go (h : f.go now = some f') : Goes now f f' := by
  unfold go at h
  split at h
  · split at h
    · obtain rfl := Option.some.inj h
      exact .ends
    · cases h
  · cases h
  · next hphase =>
    split at h
    · obtain rfl := Option.some.inj h
      exact .ends
    · exact goes_of_readNext hphase h
  · next hphase => exact goes_of_pass hphase h
  · next record wake hphase =>
    split at h
    · obtain rfl := Option.some.inj h
      exact .ends
    · split at h
      · next hwake =>
        obtain rfl := Option.some.inj h
        exact .wakes record wake hphase hwake
      · cases h
  · cases h

end

end NodeStack.Service.Follower
