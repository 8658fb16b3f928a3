import NodeStack.Json.Record
import Mathlib.Logic.Function.Basic

/-!
# `NodeStack.Proofs.Json.Record`: which members of an object are the fields of a record

Fields are filled one member after the other, and a field that is filled twice spoils the record.
The order of the members does not matter: what counts is how often each name was given.

* `valuesOf`: what an object gives under a name, in order.
* `fieldsOfMembers?_eq_some`: an object is a record if no field was given twice, and each field has
  what was given for it, if anything.
* `jsonWithin?_mono`: a tree that can be read at some depth can be read at a lesser one, so each
  value of a readable object can be read on its own (`json?_of_mem`).
* `fields?_obj`: the fields of a readable object.
-/

set_option autoImplicit false

namespace NodeStack.Json

/-- The values that members give under a name, in order. -/
def valuesOf {ν α : Type} [DecidableEq ν] (name : ν) (members : List (ν × α)) : List α :=
  (members.filter (·.1 = name)).map (·.2)

section
variable {ν α : Type} [DecidableEq ν]

theorem valuesOf_cons (name : ν) (member : ν × α) (rest : List (ν × α)) :
    valuesOf name (member :: rest) =
      if member.1 = name then member.2 :: valuesOf name rest else valuesOf name rest := by
  unfold valuesOf
  by_cases h : member.1 = name <;> simp [h]

theorem mem_of_mem_valuesOf {name : ν} {value : α} {members : List (ν × α)}
    (h : value ∈ valuesOf name members) : (name, value) ∈ members := by
  obtain ⟨⟨n, v⟩, hm, rfl⟩ := List.mem_map.mp h
  obtain ⟨hm, hn⟩ := List.mem_filter.mp hm
  rwa [← of_decide_eq_true hn]

end

/-! ### Filling fields -/

section
variable {α : Type} {names : List String}

/-- A value goes into the field of its name, unless that is taken; without one it is skipped. -/
theorem fillField_eq (hnames : names.Nodup) (held : String → Option α) (name : String) (value : α) :
    fillField name value (names.map fun n => (n, held n)) =
      if name ∈ names ∧ (held name).isSome then none
      else some (names.map fun n => (n, Function.update held name (some value) n)) := by
  induction names with
  | nil => simp [fillField]
  | cons n rest ih =>
    obtain ⟨hn, hrest⟩ := List.nodup_cons.mp hnames
    simp only [List.map_cons, fillField]
    by_cases h : n = name
    · subst h
      have hother : ∀ m ∈ rest, Function.update held n (some value) m = held m := by
        intro m hm
        have hne : m ≠ n := fun he => hn (he ▸ hm)
        rw [Function.update_of_ne hne]
      cases hheld : held n with
      | some v => simp
      | none => simpa using fun m hm => (hother m hm).symm
    · rw [if_neg h, ih hrest]
      by_cases ht : name ∈ rest ∧ (held name).isSome
      · simp [ht]
      · have ht' : ¬(name ∈ n :: rest ∧ (held name).isSome) := fun ⟨hm, hs⟩ =>
          ht ⟨(List.mem_cons.mp hm).resolve_left (Ne.symm h), hs⟩
        rw [if_neg ht, if_neg ht', Option.map_some, Function.update_of_ne h]

/-- Fields that hold something already are filled with what comes for them, one value at most. -/
theorem fillFields_eq_some (hnames : names.Nodup) (held : String → Option α)
    (members : List (String × α)) (fields : List (String × Option α)) :
    fillFields (names.map fun n => (n, held n)) members = some fields ↔
      (∀ n ∈ names, ((held n).toList ++ valuesOf n members).length ≤ 1) ∧
      fields = names.map fun n => (n, ((held n).toList ++ valuesOf n members).head?) := by
  induction members generalizing held with
  | nil =>
    have hone : ∀ n, (held n).toList.length ≤ 1 := fun n => by cases held n <;> simp
    have hhead : ∀ n, (held n).toList.head? = held n := fun n => by cases held n <;> rfl
    simpa [fillFields, valuesOf, hone, hhead] using eq_comm
  | cons member rest ih =>
    obtain ⟨name, value⟩ := member
    rw [fillFields, fillField_eq hnames]
    by_cases ht : name ∈ names ∧ (held name).isSome
    · -- the field was filled before: what comes for it now is one value too many
      obtain ⟨v, hv⟩ := Option.isSome_iff_exists.mp ht.2
      rw [if_pos ht]
      refine iff_of_false (nomatch ·) fun h => ?_
      have := h.1 name ht.1
      rw [hv, valuesOf_cons, if_pos rfl] at this
      simp at this
    · -- what the field holds now came for it, so nothing that comes for any field has changed
      rw [if_neg ht, Option.bind_some, ih]
      have hsame : ∀ n ∈ names, (Function.update held name (some value) n).toList ++
          valuesOf n rest = (held n).toList ++ valuesOf n ((name, value) :: rest) := by
        intro n hn
        rw [valuesOf_cons]
        by_cases h : n = name
        · subst h
          have hnone : held n = none :=
            Option.not_isSome_iff_eq_none.mp fun hs => ht ⟨hn, hs⟩
          simp [hnone]
        · rw [Function.update_of_ne h, if_neg (Ne.symm h)]
      have hfields : (names.map fun n => (n, ((Function.update held name (some value) n).toList ++
          valuesOf n rest).head?)) = names.map fun n =>
            (n, ((held n).toList ++ valuesOf n ((name, value) :: rest)).head?) :=
        List.map_congr_left fun n hn => by rw [hsame n hn]
      rw [hfields]
      refine and_congr_left fun _ => forall₂_congr fun n hn => ?_
      rw [hsame n hn]

/-- An object is a record if none of its fields was given twice. -/
theorem fieldsOfMembers?_eq_some (hnames : names.Nodup) {members : List (String × α)}
    {fields : List (Option α)} :
    fieldsOfMembers? names members = some fields ↔
      (∀ n ∈ names, (valuesOf n members).length ≤ 1) ∧
      fields = names.map fun n => (valuesOf n members).head? := by
  have hfill := fillFields_eq_some hnames (fun _ => none) members
  simp only [Option.toList_none, List.nil_append] at hfill
  unfold fieldsOfMembers?
  rw [Option.map_eq_some_iff]
  constructor
  · rintro ⟨named, hn, rfl⟩
    obtain ⟨hone, rfl⟩ := (hfill named).mp hn
    exact ⟨hone, by simp⟩
  · rintro ⟨hone, rfl⟩
    exact ⟨_, (hfill _).mpr ⟨hone, rfl⟩, by simp⟩

end

/-! ### Readable objects -/

namespace Tree

variable {limit : Nat} {members : List (Option String × Tree)} {names : List String}

mutual

/-- What can be read at some depth can be read at a lesser one. -/
theorem jsonWithin?_mono {t : Tree} {v : Json} {limit more : Nat} (hle : limit ≤ more)
    (h : jsonWithin? limit t = some v) : jsonWithin? more t = some v := by
  cases t with
  | null | bool | num | str => simpa only [jsonWithin?] using h
  | arr ts =>
    match limit, more with
    | limit + 2, more + 2 =>
      simp only [jsonWithin?, Option.map_eq_some_iff] at h ⊢
      obtain ⟨vs, hvs, he⟩ := h
      exact ⟨vs, itemsWithin?_mono (Nat.le_of_succ_le_succ hle) hvs, he⟩
    | 0, _ | 1, _ => simp [jsonWithin?] at h
    | limit + 2, 0 | limit + 2, 1 => omega
  | obj ms =>
    match limit, more with
    | limit + 2, more + 2 =>
      simp only [jsonWithin?, Option.map_eq_some_iff] at h ⊢
      obtain ⟨vs, hvs, he⟩ := h
      exact ⟨vs, membersWithin?_mono (Nat.le_of_succ_le_succ hle) hvs, he⟩
    | 0, _ | 1, _ => simp [jsonWithin?] at h
    | limit + 2, 0 | limit + 2, 1 => omega

theorem itemsWithin?_mono {ts : List Tree} {vs : List Json} {limit more : Nat}
    (hle : limit ≤ more) (h : itemsWithin? limit ts = some vs) :
    itemsWithin? more ts = some vs := by
  match ts with
  | [] => simpa only [itemsWithin?] using h
  | t :: ts =>
    simp only [itemsWithin?, Option.bind_eq_bind, Option.bind_eq_some_iff, Option.pure_def] at h ⊢
    obtain ⟨v, hv, vs, hvs, he⟩ := h
    exact ⟨v, jsonWithin?_mono hle hv, vs, itemsWithin?_mono hle hvs, he⟩

theorem membersWithin?_mono {ms : List (Option String × Tree)} {vs : List (String × Json)}
    {limit more : Nat} (hle : limit ≤ more) (h : membersWithin? limit ms = some vs) :
    membersWithin? more ms = some vs := by
  match ms with
  | [] => simpa only [membersWithin?] using h
  | (name, t) :: ms =>
    simp only [membersWithin?, Option.bind_eq_bind, Option.bind_eq_some_iff, Option.pure_def] at h ⊢
    obtain ⟨n, hn, v, hv, vs, hvs, he⟩ := h
    exact ⟨n, hn, v, jsonWithin?_mono hle hv, vs, membersWithin?_mono hle hvs, he⟩

end

/-- The members of a readable object have texts for names, and can be read themselves. -/
theorem membersWithin?_cases {vs : List (String × Json)}
    (h : membersWithin? limit members = some vs) :
    (∃ named, namedMembers? members = some named ∧
      ∀ name, valuesOf name named = valuesOf (some name) members) ∧
    ∀ member ∈ members, (jsonWithin? limit member.2).isSome := by
  induction members generalizing vs with
  | nil => exact ⟨⟨[], rfl, fun _ => rfl⟩, nofun⟩
  | cons member rest ih =>
    obtain ⟨name, t⟩ := member
    simp only [membersWithin?, Option.bind_eq_bind, Option.bind_eq_some_iff, Option.pure_def] at h
    obtain ⟨n, rfl, v, hv, vs', hvs, -⟩ := h
    obtain ⟨⟨named, hnamed, hvalues⟩, hread⟩ := ih hvs
    refine ⟨⟨(n, t) :: named, by simp [namedMembers?, hnamed], fun name => ?_⟩, fun m hm => ?_⟩
    · simp only [valuesOf_cons, hvalues, Option.some.injEq]
    · rcases List.mem_cons.mp hm with rfl | hm
      · exact Option.isSome_of_eq_some hv
      · exact hread m hm

/-- The members of a readable object. -/
theorem membersWithin?_of_json? (h : (Tree.obj members).json?.isSome) :
    ∃ vs, membersWithin? (nestingLimit - 1) members = some vs := by
  obtain ⟨v, hv⟩ := Option.isSome_iff_exists.mp h
  obtain ⟨vs, hvs, -⟩ := Option.map_eq_some_iff.mp
    (show (membersWithin? (nestingLimit - 1) members).map Json.ofMembers = some v by
      simpa only [json?, nestingLimit, jsonWithin?] using hv)
  exact ⟨vs, hvs⟩

/-- A value that a readable object gives under a name can be read on its own. -/
theorem isSome_json?_of_mem (h : (Tree.obj members).json?.isSome) {name : Option String} {t : Tree}
    (ht : t ∈ valuesOf name members) : t.json?.isSome := by
  obtain ⟨vs, hvs⟩ := membersWithin?_of_json? h
  obtain ⟨v, hv⟩ := Option.isSome_iff_exists.mp
    ((membersWithin?_cases hvs).2 _ (mem_of_mem_valuesOf ht))
  exact Option.isSome_of_eq_some (jsonWithin?_mono (Nat.sub_le _ _) hv)

/-- A readable object is a record if none of its fields was given twice. -/
theorem fields?_obj (hnames : names.Nodup) (h : (Tree.obj members).json?.isSome)
    {fields : List (Option Tree)} :
    (Tree.obj members).fields? names = some fields ↔
      (∀ name ∈ names, (valuesOf (some name) members).length ≤ 1) ∧
      fields = names.map fun name => (valuesOf (some name) members).head? := by
  obtain ⟨vs, hvs⟩ := membersWithin?_of_json? h
  obtain ⟨⟨named, hnamed, hvalues⟩, -⟩ := membersWithin?_cases hvs
  rw [fields?, hnamed, Option.bind_some, fieldsOfMembers?_eq_some hnames]
  simp only [hvalues]

end Tree

end NodeStack.Json
