import NodeStack.Plan

/-!
# `NodeStack.Proofs.Plan`: procedures whose answers change as they go

What a procedure asks about may change while it is under way, so that the same question has another
answer the second time.

* `Plan.interview`: the outcome and the questions, when each question is answered as things stand
  when it is asked.
* `interview_bind`: one procedure after another. The second begins where the first has ended.
* `interview_const`: if nothing changes, this is `Plan.run`.
-/

set_option autoImplicit false

namespace NodeStack.Plan

variable {Q : Type} {A : Q → Type} {α β : Type} {answer : Nat → (q : Q) → A q}

/-- The outcome of a procedure and its questions, after `n` questions were asked before it. The
answers to the `n`-th question are those of `answer n`. -/
def interview (answer : Nat → (q : Q) → A q) : (n : Nat) → Plan Q A α → α × List Q
  | _, .done a => (a, [])
  | n, .ask q next =>
    let (a, qs) := interview answer (n + 1) (next (answer n q))
    (a, q :: qs)

@[simp] theorem interview_pure (n : Nat) (a : α) :
    interview answer n (pure a : Plan Q A α) = (a, []) := rfl

theorem interview_ask (n : Nat) (q : Q) (next : A q → Plan Q A α) :
    interview answer n (.ask q next) =
      ((interview answer (n + 1) (next (answer n q))).1,
        q :: (interview answer (n + 1) (next (answer n q))).2) := rfl

/-- A single question, and what is done with its answer. -/
theorem interview_question {n : Nat} {q : Q} {a : A q} (h : answer n q = a) (f : A q → Plan Q A α) :
    interview answer n (question q >>= f) =
      ((interview answer (n + 1) (f a)).1, q :: (interview answer (n + 1) (f a)).2) := by
  subst h
  rfl

theorem interview_bind {n : Nat} {plan : Plan Q A α} {a : α} {qs : List Q}
    (h : interview answer n plan = (a, qs)) (f : α → Plan Q A β) :
    interview answer n (plan >>= f) =
      ((interview answer (n + qs.length) (f a)).1,
        qs ++ (interview answer (n + qs.length) (f a)).2) := by
  induction plan generalizing n qs with
  | done b =>
    obtain ⟨rfl, rfl⟩ := Prod.mk.inj h
    rfl
  | ask q next ih =>
    rw [interview_ask] at h
    obtain ⟨ha, rfl⟩ := Prod.mk.inj h
    show interview answer n (.ask q fun answer => next answer >>= f) = _
    rw [interview_ask, ih _ (Prod.ext ha rfl)]
    simp only [List.length_cons, Nat.add_assoc, Nat.add_comm 1, List.cons_append]

/-- Answers that never change. -/
theorem interview_const (answer : (q : Q) → A q) (n : Nat) (plan : Plan Q A α) :
    interview (fun _ => answer) n plan = plan.run answer := by
  induction plan generalizing n with
  | done a => rfl
  | ask q next ih =>
    rw [interview_ask, ih]
    rfl

end NodeStack.Plan
