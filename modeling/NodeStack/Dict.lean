/-!
# `NodeStack.Dict`: values under names

- `Dict`: pairs of a name and a value in the order of the names, each name once.
- `Dict.put`: sets the value of a name.
- `Dict.ofPairs`: of two values of one name the later counts.
- `Dict.get?_put_self`, `Dict.get?_put_other`, `Dict.names_put_perm`: what a dictionary holds after
  a value was put.
-/

set_option autoImplicit false

namespace NodeStack

/-- Pairs of a name and a value, in the order of the names. -/
abbrev Dict (α : Type) := List (String × α)

namespace Dict

/-- Puts a value in the place its name gives it, over an earlier one of the same name. -/
def put {α : Type} (name : String) (value : α) : Dict α → Dict α
  | [] => [(name, value)]
  | (n, v) :: rest =>
    if name = n then (name, value) :: rest
    else if name < n then (name, value) :: (n, v) :: rest
    else (n, v) :: put name value rest

/-- The values of some names; of two with one name the later counts. -/
def ofPairs {α : Type} (pairs : List (String × α)) : Dict α :=
  pairs.foldl (fun done (name, value) => put name value done) []

/-- The value of a name. -/
def get? {α : Type} (name : String) (d : Dict α) : Option α :=
  d.lookup name

/-- The values without that of a name. -/
def remove {α : Type} (name : String) (d : Dict α) : Dict α :=
  d.filter fun (n, _) => n != name

section
variable {α : Type} {name : String}

theorem get?_cons (name n : String) (v : α) (d : Dict α) :
    get? name ((n, v) :: d) = if name = n then some v else get? name d := by
  by_cases h : name = n
  · simp [get?, h]
  · have hbeq : (name == n) = false := beq_false_of_ne h
    simp [get?, List.lookup_cons, hbeq, h]

@[simp] theorem get?_put_self (name : String) (value : α) (d : Dict α) :
    get? name (put name value d) = some value := by
  induction d with
  | nil => simp [put, get?_cons]
  | cons entry rest ih =>
    obtain ⟨n, v⟩ := entry
    rw [put]
    split
    · simp [get?_cons]
    · next h =>
      split
      · simp [get?_cons]
      · rw [get?_cons, if_neg h, ih]

theorem get?_put_other {other : String} (h : other ≠ name) (value : α) (d : Dict α) :
    get? other (put name value d) = get? other d := by
  induction d with
  | nil => simp [put, get?_cons, h]
  | cons entry rest ih =>
    obtain ⟨n, v⟩ := entry
    rw [put]
    split
    · next he => simp only [get?_cons, ← he, if_neg h]
    · split
      · rw [get?_cons, if_neg h]
      · rw [get?_cons, get?_cons, ih]

theorem exists_get?_of_mem {d : Dict α} (h : name ∈ d.map (·.1)) :
    ∃ value, get? name d = some value := by
  induction d with
  | nil => cases h
  | cons entry rest ih =>
    obtain ⟨n, v⟩ := entry
    rw [get?_cons]
    split
    · exact ⟨v, rfl⟩
    · next hn => exact ih ((List.mem_cons.mp h).resolve_left hn)

/-- A new name is added to the names. -/
theorem names_put_perm (value : α) {d : Dict α} (h : name ∉ d.map (·.1)) :
    ((put name value d).map (·.1)).Perm (name :: d.map (·.1)) := by
  induction d with
  | nil => exact .refl _
  | cons entry rest ih =>
    obtain ⟨n, v⟩ := entry
    have hn : name ≠ n := fun he => h (he ▸ List.mem_cons_self)
    have hrest : name ∉ rest.map (·.1) := fun hm => h (List.mem_cons_of_mem _ hm)
    rw [put, if_neg hn]
    split
    · exact .refl _
    · exact ((ih hrest).cons n).trans (List.Perm.swap name n _)

end

end Dict

end NodeStack
