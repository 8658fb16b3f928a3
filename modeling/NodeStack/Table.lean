/-!
# `NodeStack.Table`: values under numbers

- `Table`: at most one value for each number.
- `Table.set`, `Table.erase`: change the value of one number and leave the others alone.
-/

set_option autoImplicit false

namespace NodeStack

/-- At most one value for each number. -/
def Table (α : Type) := Nat → Option α

namespace Table

variable {α : Type}

/-- No values. -/
def empty : Table α := fun _ => none

instance : Inhabited (Table α) := ⟨empty⟩

/-- The value of a number. -/
def get? (t : Table α) (n : Nat) : Option α := t n

/-- Gives a number a value. -/
def set (t : Table α) (n : Nat) (a : α) : Table α := fun m => if m = n then some a else t m

/-- Takes a number's value away. -/
def erase (t : Table α) (n : Nat) : Table α := fun m => if m = n then none else t m

@[simp] theorem get?_empty (n : Nat) : (empty : Table α).get? n = none := rfl

@[simp] theorem get?_set_self (t : Table α) (n : Nat) (a : α) : (t.set n a).get? n = some a := by
  simp [get?, set]

theorem get?_set_other (t : Table α) {n m : Nat} (a : α) (h : m ≠ n) :
    (t.set n a).get? m = t.get? m := by
  simp [get?, set, h]

/-- Only the last value counts. -/
@[simp] theorem set_set (t : Table α) (n : Nat) (a b : α) : (t.set n a).set n b = t.set n b := by
  funext m
  by_cases h : m = n <;> simp [set, h]

/-- A value that is there already makes no difference. -/
theorem set_of_get? {t : Table α} {n : Nat} {a : α} (h : t.get? n = some a) : t.set n a = t := by
  funext m
  by_cases hm : m = n
  · rw [hm]
    exact (get?_set_self t n a).trans h.symm
  · exact get?_set_other t a hm

@[simp] theorem get?_erase_self (t : Table α) (n : Nat) : (t.erase n).get? n = none := by
  simp [get?, erase]

theorem get?_erase_other (t : Table α) {n m : Nat} (h : m ≠ n) :
    (t.erase n).get? m = t.get? m := by
  simp [get?, erase, h]

end Table

end NodeStack
