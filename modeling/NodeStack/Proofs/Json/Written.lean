import Mathlib.Data.List.Forall2
import NodeStack.Proofs.Json.Numeral
import NodeStack.Proofs.Json.Quoted
import NodeStack.Proofs.Json.Reader

/-!
# `NodeStack.Proofs.Json.Written`: what is written for a value has that value

* `Canonical`: the values whose text is exact: no doubles, and the members of each object in the
  order of their names, each name once. `depth`: how deep a value is nested.
* `Tree.Has`: a tree is read as a value, by every reader that goes as deep as the value is nested,
  and by no other.
* `readsBack_of_canonical`: what is written for a value is read as a tree that has it, up to what
  may follow.
* `ofChars?_record`: so is what is written for a record, whatever the order of its members.
* `ofChars?_write`: and so is the whole text of a value.
-/

set_option autoImplicit false

namespace NodeStack

namespace Json

/-! ### Values -/

/-- A value without doubles, its numbers within 64 bits, as objects are kept: their members in the
order of their names, each name once. -/
inductive Canonical : Json → Prop where
  | null : Canonical .null
  | bool (value : Bool) : Canonical (.bool value)
  | num {n : Number} (fits : n.fits) : Canonical (.num n)
  | str (text : String) : Canonical (.str text)
  | arr {items : List Json} (all : ∀ v ∈ items, Canonical v) : Canonical (.arr items)
  | obj {members : List (String × Json)} (ordered : (members.map (·.1)).Pairwise (· < ·))
      (all : ∀ m ∈ members, Canonical m.2) : Canonical (.obj members)

mutual

/-- How many arrays and objects are around the innermost place of a value, itself included. -/
def depth : Json → Nat
  | .arr items => itemsDepth items + 1
  | .obj members => membersDepth members + 1
  | _ => 0

/-- The depth of the deepest of some values. -/
def itemsDepth : List Json → Nat
  | [] => 0
  | v :: rest => max (depth v) (itemsDepth rest)

/-- The depth of the deepest value of some members. -/
def membersDepth : List (String × Json) → Nat
  | [] => 0
  | (_, v) :: rest => max (depth v) (membersDepth rest)

end

end Json

/-! ### Members in order -/

namespace Dict

variable {α : Type} {name : String} {value : α} {d : Dict α}

/-- A name behind all others is put at the end. -/
theorem put_last (h : ∀ n ∈ d.map (·.1), n < name) : put name value d = d ++ [(name, value)] := by
  induction d with
  | nil => rfl
  | cons entry rest ih =>
    obtain ⟨n, v⟩ := entry
    have hn : n < name := h n List.mem_cons_self
    have hne : name ≠ n := fun he => String.lt_irrefl n (he ▸ hn)
    rw [put, if_neg hne, if_neg (String.lt_asymm hn),
      ih fun m hm => h m (List.mem_cons_of_mem _ hm)]
    rfl

/-- Put one after the other, members that stand in order come behind all that were put before. -/
theorem foldl_put (done : Dict α) (h : ((done ++ d).map (·.1)).Pairwise (· < ·)) :
    d.foldl (fun done entry => put entry.1 entry.2 done) done = done ++ d := by
  induction d generalizing done with
  | nil => rw [List.foldl_nil, List.append_nil]
  | cons entry rest ih =>
    obtain ⟨n, v⟩ := entry
    have hlast : ∀ m ∈ done.map (·.1), m < n := by
      rw [List.map_append, List.pairwise_append] at h
      exact fun m hm => h.2.2 m hm n List.mem_cons_self
    rw [List.foldl_cons, put_last hlast, ih _ (by rwa [List.append_assoc]), List.append_assoc]
    rfl

/-- Members that stand in order already stay as they are. -/
theorem ofPairs_eq_self (h : (d.map (·.1)).Pairwise (· < ·)) : ofPairs d = d :=
  foldl_put [] h

end Dict

namespace Json.Tree

/-! ### The value of a tree -/

/-- The tree is read as the value, by every reader that goes as deep as the value is nested. -/
def Has (t : Tree) (v : Json) : Prop :=
  ∀ levels, t.jsonWithin? (levels + 1) = if v.depth ≤ levels then some v else none

/-- A member of the same name, with a tree that has its value. -/
def HasMember (m : Option String × Tree) (n : String × Json) : Prop :=
  m.1 = some n.1 ∧ m.2.Has n.2

section
variable {ts : List Tree} {items : List Json} {ms : List (Option String × Tree)}
  {members : List (String × Json)}

theorem itemsWithin?_of_has (h : List.Forall₂ Has ts items) (levels : Nat) :
    itemsWithin? (levels + 1) ts =
      if itemsDepth items ≤ levels then some items else none := by
  induction h with
  | nil => simp [itemsWithin?, itemsDepth]
  | @cons t v ts items ht _ ih =>
    rw [itemsWithin?, ht levels, ih, itemsDepth]
    simp only [Nat.max_le]
    by_cases hv : v.depth ≤ levels <;> by_cases hitems : itemsDepth items ≤ levels <;>
      simp [hv, hitems]

theorem membersWithin?_of_has (h : List.Forall₂ HasMember ms members) (levels : Nat) :
    membersWithin? (levels + 1) ms =
      if membersDepth members ≤ levels then some members else none := by
  induction h with
  | nil => simp [membersWithin?, membersDepth]
  | @cons m n ms members hm _ ih =>
    obtain ⟨name, t⟩ := m
    obtain ⟨n, v⟩ := n
    obtain ⟨rfl, ht⟩ := hm
    rw [membersWithin?, ht levels, ih, membersDepth]
    simp only [Nat.max_le]
    by_cases hv : v.depth ≤ levels <;> by_cases hmembers : membersDepth members ≤ levels <;>
      simp [hv, hmembers]

theorem has_arr (h : List.Forall₂ Has ts items) : (Tree.arr ts).Has (.arr items) := by
  rintro (_ | levels)
  · simp [jsonWithin?, depth]
  · rw [jsonWithin?, itemsWithin?_of_has h, depth]
    by_cases hle : itemsDepth items ≤ levels <;> simp [hle]

/-- An object has the value of its members once they are in order. -/
theorem jsonWithin?_obj (h : List.Forall₂ HasMember ms members) (levels : Nat) :
    (Tree.obj ms).jsonWithin? (levels + 1) =
      if membersDepth members + 1 ≤ levels then some (Json.ofMembers members) else none := by
  match levels with
  | 0 => simp [jsonWithin?]
  | levels + 1 =>
    rw [jsonWithin?, membersWithin?_of_has h]
    by_cases hle : membersDepth members ≤ levels <;> simp [hle]

theorem has_obj (hordered : (members.map (·.1)).Pairwise (· < ·))
    (h : List.Forall₂ HasMember ms members) : (Tree.obj ms).Has (.obj members) := by
  intro levels
  rw [jsonWithin?_obj h, Json.ofMembers, Dict.ofPairs_eq_self hordered, depth]

end

/-! ### How a value begins -/

theorem writeNumber_begins (n : Int) :
    ∃ c cs, writeNumber (.whole n) = c :: cs ∧ (c = '-' ∨ c.isDigit) := by
  by_cases hn : n < 0
  · exact ⟨'-', _, by rw [writeNumber, if_pos hn], .inl rfl⟩
  · obtain ⟨d, ds, hds⟩ :=
      List.exists_cons_of_ne_nil (Nat.toDigits_ne_nil (n := n.natAbs) (b := 10))
    refine ⟨d, ds, by rw [writeNumber, if_neg hn, hds], .inr ?_⟩
    exact Literal.isDigit_of_mem (n := n.natAbs) (by rw [hds]; exact List.mem_cons_self)

/-- A value does not begin with a blank, nor with the bracket that ends an array. -/
theorem write_begins {v : Json} (h : Canonical v) :
    ∃ c cs, write v = c :: cs ∧ isGap c = false ∧ c ≠ ']' := by
  cases h with
  | null => exact ⟨'n', _, rfl, by decide, by decide⟩
  | bool b =>
    cases b with
    | true => exact ⟨'t', _, rfl, by decide, by decide⟩
    | false => exact ⟨'f', _, rfl, by decide, by decide⟩
  | @num n fits =>
    match n with
    | .whole n =>
      obtain ⟨c, cs, hcs, hc⟩ := writeNumber_begins n
      exact ⟨c, cs, by rw [write, hcs], isGap_of_numeral hc,
        ne_of_numeral hc (by decide) (by decide)⟩
  | str s => exact ⟨'"', _, by rw [write, writeText], by decide, by decide⟩
  | arr => exact ⟨'[', _, by rw [write], by decide, by decide⟩
  | obj => exact ⟨'\x7b', _, by rw [write], by decide, by decide⟩

/-! ### What is written is read -/

/-- What is written for the value is read as a tree that has it, up to what may follow. -/
def ReadsBack (v : Json) : Prop :=
  ∀ rest fuel, Ends rest → 2 * (write v).length ≤ fuel →
    ∃ t, value? fuel (write v ++ rest) = some (t, rest) ∧ t.Has v

/-- No text of a value is empty, so there is fuel for one step at least. -/
theorem readsBack_of_step {v : Json} (h : Canonical v)
    (hstep : ∀ rest fuel, Ends rest → 2 * (write v).length ≤ fuel + 1 →
      ∃ t, value? (fuel + 1) (write v ++ rest) = some (t, rest) ∧ t.Has v) : ReadsBack v := by
  intro rest fuel hrest hfuel
  obtain ⟨c, cs, hcs, -⟩ := write_begins h
  have hlength : 0 < (write v).length := by rw [hcs]; exact Nat.succ_pos _
  obtain ⟨fuel, rfl⟩ := Nat.exists_eq_add_one.mpr (show 0 < fuel by omega)
  exact hstep rest fuel hrest hfuel

section
variable {items : List Json} {members : List (String × Json)} {rest : List Char} {fuel : Nat}

theorem items?_write (rest : List Char) (fuel : Nat) (h : ∀ v ∈ items, ReadsBack v)
    (hne : items ≠ [])
    (hfuel : 2 * (writeItems items).length + 1 ≤ fuel) :
    ∃ ts, items? fuel (writeItems items ++ ']' :: rest) = some (ts, rest) ∧
      List.Forall₂ Has ts items := by
  -- one unit of fuel goes to each item, so what the item and its comma cost is paid for twice
  induction items generalizing fuel with
  | nil => exact absurd rfl hne
  | cons v items ih =>
    obtain ⟨fuel, rfl⟩ := Nat.exists_eq_add_one.mpr (show 0 < fuel by omega)
    match items with
    | [] =>
      rw [writeItems] at hfuel ⊢
      obtain ⟨t, ht, hhas⟩ := h v List.mem_cons_self (']' :: rest) fuel
        (ends_cons (.inr (.inl rfl))) (by omega)
      exact ⟨[t], items?_eq_some.mpr ⟨t, _, ht, .inl ⟨rfl, rfl⟩⟩, .cons hhas .nil⟩
    | w :: items =>
      rw [writeItems] at hfuel ⊢
      simp only [List.length_append, List.length_cons] at hfuel
      rw [List.append_assoc, List.cons_append]
      obtain ⟨t, ht, hhas⟩ := h v List.mem_cons_self
        (',' :: (writeItems (w :: items) ++ ']' :: rest)) fuel (ends_cons (.inl rfl)) (by omega)
      obtain ⟨ts, hts, hall⟩ := ih fuel (fun u hu => h u (List.mem_cons_of_mem _ hu))
        (List.cons_ne_nil _ _) (by omega)
      exact ⟨t :: ts, items?_eq_some.mpr ⟨t, _, ht, .inr ⟨_, ts, rfl, hts, rfl⟩⟩, .cons hhas hall⟩

theorem members?_write (rest : List Char) (fuel : Nat) (h : ∀ m ∈ members, ReadsBack m.2)
    (hne : members ≠ [])
    (hfuel : 2 * (writeMembers members).length + 1 ≤ fuel) :
    ∃ ms, members? fuel (writeMembers members ++ '\x7d' :: rest) = some (ms, rest) ∧
      List.Forall₂ HasMember ms members := by
  induction members generalizing fuel with
  | nil => exact absurd rfl hne
  | cons m members ih =>
    obtain ⟨name, v⟩ := m
    obtain ⟨fuel, rfl⟩ := Nat.exists_eq_add_one.mpr (show 0 < fuel by omega)
    have hv : ReadsBack v := h (name, v) List.mem_cons_self
    have hname : ∀ cs, text? (name.toList.flatMap escapeChar ++ '"' :: cs) = some (some name, cs) :=
      fun cs => by rw [text?_quoted, String.ofList_toList]
    match members with
    | [] =>
      simp only [writeMembers, writeText, List.length_append, List.length_cons] at hfuel
      obtain ⟨t, ht, hhas⟩ := hv ('\x7d' :: rest) fuel (ends_cons (.inr (.inr rfl))) (by omega)
      refine ⟨[(some name, t)], ?_, .cons ⟨rfl, hhas⟩ .nil⟩
      simp only [writeMembers, writeText, List.append_assoc, List.cons_append, List.nil_append]
      exact members?_eq_some.mpr ⟨_, _, ⟨_, _, _, rfl, hname _, rfl, ht⟩, .inl ⟨rfl, rfl⟩⟩
    | n :: members =>
      simp only [writeMembers, writeText, List.length_append, List.length_cons] at hfuel
      obtain ⟨t, ht, hhas⟩ := hv (',' :: (writeMembers (n :: members) ++ '\x7d' :: rest)) fuel
        (ends_cons (.inl rfl)) (by omega)
      obtain ⟨ms, hms, hall⟩ := ih fuel (fun m hm => h m (List.mem_cons_of_mem _ hm))
        (List.cons_ne_nil _ _) (by omega)
      refine ⟨(some name, t) :: ms, ?_, .cons ⟨rfl, hhas⟩ hall⟩
      simp only [writeMembers, writeText, List.append_assoc, List.cons_append, List.nil_append]
      exact members?_eq_some.mpr
        ⟨_, _, ⟨_, _, _, rfl, hname _, rfl, ht⟩, .inr ⟨_, ms, rfl, hms, rfl⟩⟩

/-- What is written for members in braces is read as an object with them, in any order. -/
theorem value?_members_write (rest : List Char) (fuel : Nat) (h : ∀ m ∈ members, ReadsBack m.2)
    (hfuel : 2 * ((writeMembers members).length + 2) ≤ fuel + 1) :
    ∃ ms, value? (fuel + 1) ('\x7b' :: (writeMembers members ++ '\x7d' :: rest)) =
        some (.obj ms, rest) ∧ List.Forall₂ HasMember ms members := by
  match members with
  | [] => exact ⟨[], rfl, .nil⟩
  | m :: members =>
    obtain ⟨ms, hms, hall⟩ := members?_write rest fuel h (List.cons_ne_nil _ _) (by omega)
    have hquote : ∃ cs, writeMembers (m :: members) = '"' :: cs := by
      cases members with
      | nil => exact ⟨_, rfl⟩
      | cons => exact ⟨_, rfl⟩
    obtain ⟨cs, hcs⟩ := hquote
    refine ⟨ms, ?_, hall⟩
    rw [hcs, List.cons_append] at hms ⊢
    rw [value?_members (skip_cons (by decide)), hms]
    rfl

/-- What is written for items in brackets is read as an array of them. -/
theorem value?_items_write (rest : List Char) (fuel : Nat)
    (hcanonical : ∀ v ∈ items, Canonical v) (h : ∀ v ∈ items, ReadsBack v)
    (hfuel : 2 * ((writeItems items).length + 2) ≤ fuel + 1) :
    ∃ ts, value? (fuel + 1) ('[' :: (writeItems items ++ ']' :: rest)) = some (.arr ts, rest) ∧
      List.Forall₂ Has ts items := by
  match items with
  | [] => exact ⟨[], rfl, .nil⟩
  | v :: items =>
    obtain ⟨ts, hts, hall⟩ := items?_write rest fuel h (List.cons_ne_nil _ _) (by omega)
    -- the first item begins with neither a blank nor the closing bracket
    obtain ⟨c, cs, hcs, hgap, hc⟩ := write_begins (hcanonical v List.mem_cons_self)
    obtain ⟨cs, hcs⟩ : ∃ cs, writeItems (v :: items) = c :: cs := by
      cases items with
      | nil => exact ⟨_, by rw [writeItems, hcs]⟩
      | cons => exact ⟨_, by rw [writeItems, hcs, List.cons_append]⟩
    refine ⟨ts, ?_, hall⟩
    rw [hcs, List.cons_append] at hts ⊢
    rw [value?_items (skip_cons hgap) hc, hts]
    rfl

theorem has_of_no_depth {t : Tree} {v : Json} (hv : v.depth = 0)
    (h : ∀ limit, t.jsonWithin? limit = some v) : t.Has v := by
  intro levels
  rw [h, hv, if_pos (Nat.zero_le _)]

/-- What is written for a canonical value is read as a tree that has it. -/
theorem readsBack_of_canonical {v : Json} (h : Canonical v) : ReadsBack v := by
  induction h with
  | null =>
    exact readsBack_of_step .null fun _ _ _ _ => ⟨.null, rfl, has_of_no_depth rfl fun _ => rfl⟩
  | bool b =>
    refine readsBack_of_step (.bool b) fun rest fuel _ _ =>
      ⟨.bool b, ?_, has_of_no_depth rfl fun _ => rfl⟩
    cases b <;> rfl
  | @num n fits =>
    refine readsBack_of_step (.num fits) fun rest fuel hrest _ => ?_
    match n with
    | .whole n =>
      obtain ⟨c, cs, hcs, hc⟩ := writeNumber_begins n
      refine ⟨.num (.ofInt n), ?_, has_of_no_depth rfl fun _ => ?_⟩
      · rw [write, hcs, List.cons_append, value?_numeral hc, ← List.cons_append, ← hcs,
          Literal.read?_written n hrest.apart]
        rfl
      · rw [jsonWithin?, Literal.number?_ofInt fits]
        rfl
  | str s =>
    refine readsBack_of_step (.str s) fun rest fuel _ _ =>
      ⟨.str (some s), ?_, has_of_no_depth rfl fun _ => rfl⟩
    simp only [write, writeText, List.cons_append, List.append_assoc, List.nil_append]
    rw [value?_text, text?_quoted, String.ofList_toList]
    rfl
  | @arr items hall ih =>
    refine readsBack_of_step (.arr hall) fun rest fuel _ hfuel => ?_
    simp only [write, List.length_cons, List.length_append, List.length_nil] at hfuel
    obtain ⟨ts, hts, hhas⟩ := value?_items_write rest fuel hall ih (by omega)
    refine ⟨.arr ts, ?_, has_arr hhas⟩
    simpa only [write, List.cons_append, List.append_assoc, List.nil_append] using hts
  | @obj members hordered hall ih =>
    refine readsBack_of_step (.obj hordered hall) fun rest fuel _ hfuel => ?_
    simp only [write, List.length_cons, List.length_append, List.length_nil] at hfuel
    obtain ⟨ms, hms, hhas⟩ := value?_members_write rest fuel ih (by omega)
    refine ⟨.obj ms, ?_, has_obj hordered hhas⟩
    simpa only [write, List.cons_append, List.append_assoc, List.nil_append] using hms

/-- The text of a record is read as an object with its members, whatever their order. -/
theorem ofChars?_record (h : ∀ m ∈ members, Canonical m.2) :
    ∃ ms, ofChars? ('\x7b' :: (writeMembers members ++ ['\x7d'])) = some (.obj ms) ∧
      List.Forall₂ HasMember ms members := by
  obtain ⟨ms, hms, hall⟩ := value?_members_write []
    (2 * ('\x7b' :: (writeMembers members ++ ['\x7d'])).length + 1)
    (fun m hm => readsBack_of_canonical (h m hm)) (by
      simp only [List.length_cons, List.length_append, List.length_nil]
      omega)
  exact ⟨ms, by rw [ofChars?, hms]; rfl, hall⟩

end

end Json.Tree

namespace Json

/-- The text of a canonical value is read back, unless the value is nested deeper than a reader
goes. -/
theorem ofChars?_write {v : Json} (h : Canonical v) :
    ofChars? (write v) = if v.depth < Tree.nestingLimit then some v else none := by
  obtain ⟨t, ht, hhas⟩ := Tree.readsBack_of_canonical h [] (2 * (write v).length + 2) ends_nil
    (by omega)
  rw [List.append_nil] at ht
  have htree : Tree.ofChars? (write v) = some t := by
    rw [Tree.ofChars?, ht]
    rfl
  rw [ofChars?, htree, Option.bind_some, Tree.json?, Tree.nestingLimit, hhas 127]
  simp only [Nat.lt_succ_iff]

end Json

end NodeStack
