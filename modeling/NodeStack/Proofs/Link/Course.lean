import Mathlib.Data.List.Chain
import NodeStack.Scenario.Dialling

/-!
# `NodeStack.Proofs.Link.Course`: the attempts of a connection that nobody closes

* `Stage`: an attempt with its time, and when its link breaks.
* `course`: every attempt there will be, from the script and from the times of the breaks alone.
* `course_isChain`: an attempt starts a retry delay after the last one failed, or when its link
  broke, and never before the last one is over. `course_attempt`: attempts go as the script says.
* `course_early`, `course_cons_early`: a break is without effect before there is a link.
-/

set_option autoImplicit false

namespace NodeStack.Scenario

/-! ### Attempts -/

/-- An attempt of a connection. -/
structure Stage where
  start : Nat
  attempt : Attempt
  /-- When its link breaks, if it ever has one that does. -/
  broken : Option Nat
  deriving Repr, DecidableEq

namespace Stage

/-- When an attempt ends, unless it never does. -/
def finish (s : Stage) : Nat := s.start + s.attempt.delay

/-- When the next attempt starts. -/
def next (retry : Nat) (s : Stage) : Option Nat :=
  match s.attempt.outcome with
  | .failure => some (s.finish + retry)
  | .success => s.broken
  | .never | .crash => none

/-- Whether an attempt has succeeded by some time. -/
def wonBy (time : Nat) (s : Stage) : Bool :=
  s.attempt.outcome == .success && decide (s.finish ≤ time)

/-- Whether the link of an attempt is live at some time. -/
def liveAt (time : Nat) (s : Stage) : Bool := s.wonBy time && s.broken.all (time < ·)

/-- Whether an attempt is under way at some time, or failed so little before that the next one has
not started. -/
def pendingAt (retry time : Nat) (s : Stage) : Bool :=
  match s.attempt.outcome with
  | .failure => decide (time < s.finish + retry)
  | .success | .crash => decide (time < s.finish)
  | .never => true

end Stage

/-- The attempts from `start` on when every dial succeeds at once. -/
def unscripted : (breaks : List Nat) → (start : Nat) → List Stage
  | [], start => [⟨start, ⟨0, .success⟩, none⟩]
  | b :: breaks, start =>
    if b < start then unscripted breaks start
    else ⟨start, ⟨0, .success⟩, some b⟩ :: unscripted breaks b

/-- The attempts from `start` on. A break is without effect before there is a link. -/
def course (retry : Nat) :
    (script : List Attempt) → (breaks : List Nat) → (start : Nat) → List Stage
  | [], breaks, start => unscripted breaks start
  | a :: script, breaks, start =>
    match a.outcome with
    | .failure => ⟨start, a, none⟩ :: course retry script breaks (start + a.delay + retry)
    | .success =>
      match breaks.dropWhile (· < start + a.delay) with
      | [] => [⟨start, a, none⟩]
      | b :: breaks => ⟨start, a, some b⟩ :: course retry script breaks b
    | .never | .crash => [⟨start, a, none⟩]

/-! ### The course -/

section
variable {retry start b : Nat} {a : Attempt} {script : List Attempt} {breaks : List Nat}

theorem unscripted_eq_course (breaks : List Nat) (start : Nat) :
    unscripted breaks start = course retry [⟨0, .success⟩] breaks start := by
  induction breaks with
  | nil => rfl
  | cons b breaks ih =>
    by_cases hb : b < start
    · rw [unscripted, if_pos hb, ih]
      simp [course, hb]
    · rw [unscripted, if_neg hb]
      simp [course, hb]

/-- The attempt that a course begins with. -/
theorem course_cons (retry : Nat) (a : Attempt) (script : List Attempt) (breaks : List Nat)
    (start : Nat) :
    ∃ broken rest, course retry (a :: script) breaks start = ⟨start, a, broken⟩ :: rest := by
  rw [course]
  cases a.outcome with
  | success =>
    dsimp only
    split <;> exact ⟨_, _, rfl⟩
  | failure => exact ⟨_, _, rfl⟩
  | never => exact ⟨_, _, rfl⟩
  | crash => exact ⟨_, _, rfl⟩

theorem course_head (retry : Nat) (script : List Attempt) (breaks : List Nat) (start : Nat) :
    ∃ a broken rest, course retry script breaks start = ⟨start, a, broken⟩ :: rest := by
  cases script with
  | nil =>
    obtain ⟨broken, rest, h⟩ := course_cons retry ⟨0, .success⟩ [] breaks start
    exact ⟨_, broken, rest, (unscripted_eq_course breaks start).trans h⟩
  | cons a script =>
    obtain ⟨broken, rest, h⟩ := course_cons retry a script breaks start
    exact ⟨a, broken, rest, h⟩

/-- A break before the course begins is without effect. -/
theorem course_early (h : b < start) :
    course retry script (b :: breaks) start = course retry script breaks start := by
  induction script generalizing start with
  | nil => rw [course, course, unscripted, if_pos h]
  | cons a script ih =>
    rw [course, course]
    cases a.outcome with
    | success =>
      have hb : b < start + a.delay := by omega
      simp [hb]
    | failure =>
      dsimp only
      rw [ih (by omega)]
    | never => rfl
    | crash => rfl

/-- A break before the first attempt has brought a link, or while the next one is waited for, is
without effect. -/
theorem course_cons_early (hwon : a.outcome = .success → b < start + a.delay)
    (hfailed : a.outcome = .failure → b < start + a.delay + retry) :
    course retry (a :: script) (b :: breaks) start = course retry (a :: script) breaks start := by
  rw [course, course]
  cases ha : a.outcome with
  | success => simp [hwon ha]
  | failure =>
    dsimp only
    rw [course_early (hfailed ha)]
  | never => rfl
  | crash => rfl

/-- How an attempt follows another one. -/
def Follows (retry : Nat) (s s' : Stage) : Prop :=
  s.next retry = some s'.start ∧ s.finish ≤ s'.start

theorem unscripted_isChain (retry : Nat) (breaks : List Nat) (start : Nat) :
    (unscripted breaks start).IsChain (Follows retry) := by
  induction breaks generalizing start with
  | nil => exact List.isChain_singleton _
  | cons b breaks ih =>
    rw [unscripted]
    split
    · exact ih start
    · next hb =>
      refine List.isChain_cons.mpr ⟨fun s hs => ?_, ih b⟩
      obtain ⟨a, broken, rest, hcourse⟩ := course_head retry [] breaks b
      have hcourse : unscripted breaks b = _ := hcourse
      rw [hcourse] at hs
      obtain rfl := Option.some.inj hs
      exact ⟨rfl, Nat.not_lt.mp hb⟩

theorem course_isChain (retry : Nat) (script : List Attempt) (breaks : List Nat) (start : Nat) :
    (course retry script breaks start).IsChain (Follows retry) := by
  induction script generalizing breaks start with
  | nil => exact unscripted_isChain retry breaks start
  | cons a script ih =>
    -- The rest of the course begins where its first attempt starts.
    have hcons : ∀ {s : Stage} {breaks : List Nat} {t : Nat}, s.next retry = some t → s.finish ≤ t →
        (s :: course retry script breaks t).IsChain (Follows retry) := by
      intro s breaks t hnext hover
      refine List.isChain_cons.mpr ⟨fun s' hs' => ?_, ih breaks t⟩
      obtain ⟨a', broken, rest, hcourse⟩ := course_head retry script breaks t
      rw [hcourse] at hs'
      obtain rfl := Option.some.inj hs'
      exact ⟨hnext, hover⟩
    rw [course]
    cases ha : a.outcome with
    | failure =>
      refine hcons ?_ (Nat.le_add_right _ _)
      simp [Stage.next, Stage.finish, ha]
    | success =>
      dsimp only
      split
      · exact List.isChain_singleton _
      · next b later hlate =>
        have hb := List.head?_dropWhile_not (fun b => decide (b < start + a.delay)) breaks
        rw [hlate] at hb
        refine hcons ?_ (Nat.not_lt.mp (of_decide_eq_false hb))
        simp [Stage.next, ha]
    | never => exact List.isChain_singleton _
    | crash => exact List.isChain_singleton _

example : course 100 [⟨5, .failure⟩, ⟨10, .success⟩] [50, 120, 300] 0 =
    [⟨0, ⟨5, .failure⟩, none⟩, ⟨105, ⟨10, .success⟩, some 120⟩, ⟨120, ⟨0, .success⟩, some 300⟩,
      ⟨300, ⟨0, .success⟩, none⟩] := by decide

theorem unscripted_attempt {k : Nat} {s : Stage} (h : (unscripted breaks start)[k]? = some s) :
    s.attempt = ⟨0, .success⟩ := by
  induction breaks generalizing start k with
  | nil =>
    cases k with
    | zero => exact (Option.some.inj h) ▸ rfl
    | succ k => cases h
  | cons b breaks ih =>
    rw [unscripted] at h
    split at h
    · exact ih h
    · cases k with
      | zero => exact (Option.some.inj h) ▸ rfl
      | succ k => exact ih h

/-- Every attempt goes as the script says, and those after the script succeed at once. -/
theorem course_attempt {k : Nat} {s : Stage} (h : (course retry script breaks start)[k]? = some s) :
    s.attempt = script.getD k ⟨0, .success⟩ := by
  induction script generalizing breaks start k with
  | nil => exact unscripted_attempt h
  | cons a script ih =>
    cases k with
    | zero =>
      obtain ⟨broken, rest, hcourse⟩ := course_cons retry a script breaks start
      rw [hcourse] at h
      exact (Option.some.inj h) ▸ rfl
    | succ k =>
      rw [course] at h
      cases ha : a.outcome with
      | failure =>
        rw [ha] at h
        exact ih h
      | success =>
        rw [ha] at h
        dsimp only at h
        split at h
        · cases h
        · exact ih h
      | never =>
        rw [ha] at h
        cases h
      | crash =>
        rw [ha] at h
        cases h

/-- A course without breaks to come begins with an attempt whose link does not break. -/
theorem course_unbroken (retry : Nat) (a : Attempt) (script : List Attempt) (start : Nat) :
    ∃ rest, course retry (a :: script) [] start = ⟨start, a, none⟩ :: rest := by
  rw [course]
  cases a.outcome <;> exact ⟨_, rfl⟩

/-! ### Where an attempt stands at some time -/

/-- An attempt that is over and done with neither holds a live link nor keeps the loop waiting. -/
theorem not_liveAt_of_done {s : Stage} {now : Nat}
    (h : ∃ t, s.next retry = some t ∧ s.finish ≤ t ∧ t ≤ now) :
    s.liveAt now = false ∧ s.pendingAt retry now = false ∧
      s.wonBy now = (s.attempt.outcome == .success) := by
  obtain ⟨t, hnext, hover, ht⟩ := h
  unfold Stage.next at hnext
  unfold Stage.liveAt Stage.wonBy Stage.pendingAt
  cases ha : s.attempt.outcome with
  | failure =>
    simp only [ha] at hnext
    have hend := Option.some.inj hnext
    refine ⟨rfl, ?_, rfl⟩
    simp
    omega
  | success =>
    simp only [ha] at hnext
    rw [hnext]
    refine ⟨?_, ?_, ?_⟩ <;> simp <;> omega
  | never =>
    simp only [ha] at hnext
    cases hnext
  | crash =>
    simp only [ha] at hnext
    cases hnext

/-- While an attempt is under way or waited for, none has succeeded that has a live link. -/
theorem not_liveAt_of_pending {s : Stage} {now : Nat} (h : s.pendingAt retry now = true) :
    s.liveAt now = false := by
  unfold Stage.pendingAt at h
  unfold Stage.liveAt Stage.wonBy
  cases ha : s.attempt.outcome with
  | success =>
    simp only [ha] at h
    rw [decide_eq_false (Nat.not_le.mpr (of_decide_eq_true h))]
    rfl
  | _ => rfl

end

end NodeStack.Scenario
