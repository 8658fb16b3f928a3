import NodeStack.Proofs.Json.Grammar

/-!
# `NodeStack.Proofs.Json.Document`: the texts that are JSON documents

A reader goes through a text once, from the left, and keeps to the grammar for two reasons. Whatever
it has read when it stops is a phrase, no matter what comes behind. And when a phrase has been read,
the comma, bracket or end that comes next shows that it has ended.

* `spells_of_read`: what is read is a phrase, by induction on the fuel.
* `reads_of_spells`: a phrase is read up to its end, by induction on how it is spelled.
* `isSome_ofChars?_iff`: the texts that have a tree are the documents.
* `parse?_of_not_document`: a text that is no document has no value.
-/

set_option autoImplicit false

namespace NodeStack.Json

namespace Tree

open Grammar

section
variable {fuel : Nat} {cs rest : List Char} {t : Tree} {ts : List Tree}
  {ms : List (Option String × Tree)}

/-! ### What is read keeps to the grammar -/

/-- A text begins with a phrase, and this is what follows it. -/
def Begins (p : Phrase) (cs rest : List Char) : Prop :=
  ∃ phrase, Spells p phrase ∧ cs = phrase ++ rest

theorem begins_element {cs₁ : List Char} (h : Begins .value (skip cs) cs₁)
    (hrest : skip cs₁ = rest) : Begins .element cs rest := by
  obtain ⟨v, hv, hcs⟩ := h
  obtain ⟨before, hbefore, hskip⟩ := exists_gap cs
  obtain ⟨behind, hbehind, hskip₁⟩ := exists_gap cs₁
  refine ⟨_, .element hbefore hv hbehind, ?_⟩
  rw [List.append_assoc, List.append_assoc, ← hrest, ← hskip₁, ← hcs, ← hskip]

/-- A value is a phrase, if the elements and members inside it are. -/
theorem begins_value
    (hitems : ∀ cs ts rest, items? fuel cs = some (ts, rest) → Begins .elements cs (']' :: rest))
    (hmembers : ∀ cs ms rest, members? fuel cs = some (ms, rest) →
      Begins .members cs ('\x7d' :: rest))
    (h : value? (fuel + 1) cs = some (t, rest)) : Begins .value (skip cs) rest := by
  rcases cases_of_value? h with ⟨cs', s, hcs, hs⟩ | ⟨cs', hcs, hend | ⟨ts, hts⟩⟩ |
    ⟨cs', hcs, hend | ⟨ms, hms⟩⟩ | ⟨word, hword, hcs⟩ | ⟨l, hl⟩
  · obtain ⟨body, hbody, rfl⟩ := quotable_of_text? hs
    exact ⟨_, .text hbody, by rw [hcs]; simp⟩
  · obtain ⟨gap, hgap, hskip⟩ := exists_gap cs'
    exact ⟨_, .noElements hgap, by rw [hcs, hskip, hend]; simp⟩
  · obtain ⟨gap, hgap, hskip⟩ := exists_gap cs'
    obtain ⟨es, hes, he⟩ := hitems _ _ _ hts
    exact ⟨_, .array (hes.elements_gap hgap), by rw [hcs, hskip, he]; simp⟩
  · obtain ⟨gap, hgap, hskip⟩ := exists_gap cs'
    exact ⟨_, .noMembers hgap, by rw [hcs, hskip, hend]; simp⟩
  · obtain ⟨gap, hgap, hskip⟩ := exists_gap cs'
    obtain ⟨ms, hms, he⟩ := hmembers _ _ _ hms
    exact ⟨_, .object (hms.members_gap hgap), by rw [hcs, hskip, he]; simp⟩
  · exact ⟨_, .word hword, hcs⟩
  · obtain ⟨numeral, hnumeral, he⟩ := Literal.numeral_of_read? hl
    exact ⟨_, .numeral hnumeral, he⟩

/-- A member is a phrase, if its value is. -/
theorem begins_member {m : Option String × Tree} {cs₁ : List Char}
    (hvalue : ∀ cs t rest, value? fuel cs = some (t, rest) → Begins .value (skip cs) rest)
    (h : ReadsMember fuel cs m cs₁) (hrest : skip cs₁ = rest) : Begins .member cs rest := by
  obtain ⟨cs₂, cs₃, cs₄, hquote, htext, hcolon, ht⟩ := h
  obtain ⟨before, hbefore, hskip⟩ := exists_gap cs
  obtain ⟨name, hname, rfl⟩ := quotable_of_text? htext
  obtain ⟨behind, hbehind, hskip₃⟩ := exists_gap cs₃
  obtain ⟨e, he, rfl⟩ := begins_element (hvalue _ _ _ ht) hrest
  refine ⟨_, .member hbefore hname hbehind he, ?_⟩
  rw [hskip, hquote, hskip₃, hcolon]
  simp

/-- Whatever is read is a phrase, whatever comes behind. -/
theorem spells_of_read (fuel : Nat) :
    (∀ cs t rest, value? fuel cs = some (t, rest) → Begins .value (skip cs) rest) ∧
    (∀ cs ts rest, items? fuel cs = some (ts, rest) → Begins .elements cs (']' :: rest)) ∧
    (∀ cs ms rest, members? fuel cs = some (ms, rest) → Begins .members cs ('\x7d' :: rest)) := by
  -- the readers call one another with less fuel, so one induction carries all three
  induction fuel with
  | zero => exact ⟨nofun, nofun, nofun⟩
  | succ fuel ih =>
    obtain ⟨hvalue, hitems, hmembers⟩ := ih
    refine ⟨fun cs t rest => begins_value hitems hmembers, fun cs ts rest h => ?_,
      fun cs ms rest h => ?_⟩
    · obtain ⟨t, cs₁, ht, ⟨hend, -⟩ | ⟨cs₂, ts', hcomma, hts, -⟩⟩ := items?_eq_some.mp h
      · obtain ⟨e, he, hcs⟩ := begins_element (hvalue _ _ _ ht) hend
        exact ⟨e, .lastElement he, hcs⟩
      · obtain ⟨e, he, hcs⟩ := begins_element (hvalue _ _ _ ht) hcomma
        obtain ⟨es, hes, rfl⟩ := hitems _ _ _ hts
        exact ⟨_, .moreElements he hes, by rw [hcs]; simp⟩
    · obtain ⟨m, cs₁, hm, ⟨hend, -⟩ | ⟨cs₂, ms', hcomma, hms, -⟩⟩ := members?_eq_some.mp h
      · obtain ⟨phrase, hphrase, hcs⟩ := begins_member hvalue hm hend
        exact ⟨phrase, .lastMember hphrase, hcs⟩
      · obtain ⟨phrase, hphrase, hcs⟩ := begins_member hvalue hm hcomma
        obtain ⟨more, hmore, rfl⟩ := hmembers _ _ _ hms
        exact ⟨_, .moreMembers hphrase hmore, by rw [hcs]; simp⟩

/-! ### What keeps to the grammar is read -/

theorem value?_gap {gap : List Char} (h : Gap gap) (fuel : Nat) (cs : List Char) :
    value? fuel (gap ++ cs) = value? fuel cs := by
  cases fuel with
  | zero => rw [value?_zero, value?_zero]
  | succ fuel => rw [value?, value?, skip_gap h]

theorem items?_gap {gap : List Char} (h : Gap gap) (fuel : Nat) (cs : List Char) :
    items? fuel (gap ++ cs) = items? fuel cs := by
  cases fuel with
  | zero => rw [items?_zero, items?_zero]
  | succ fuel => rw [items?, items?, value?_gap h]

theorem members?_gap {gap : List Char} (h : Gap gap) (fuel : Nat) (cs : List Char) :
    members? fuel (gap ++ cs) = members? fuel cs := by
  cases fuel with
  | zero => rw [members?_zero, members?_zero]
  | succ fuel => rw [members?, members?, skip_gap h]

theorem items?_skip (fuel : Nat) (cs : List Char) : items? fuel (skip cs) = items? fuel cs := by
  obtain ⟨gap, hgap, hcs⟩ := exists_gap cs
  have h := items?_gap hgap fuel (skip cs)
  rw [← hcs] at h
  exact h.symm

theorem members?_skip (fuel : Nat) (cs : List Char) :
    members? fuel (skip cs) = members? fuel cs := by
  obtain ⟨gap, hgap, hcs⟩ := exists_gap cs
  have h := members?_gap hgap fuel (skip cs)
  rw [← hcs] at h
  exact h.symm

/-- A value begins neither with a blank nor with the bracket that ends an array. -/
theorem value_begins (h : Spells .value cs) :
    ∃ c cs', cs = c :: cs' ∧ isGap c = false ∧ c ≠ ']' := by
  cases h with
  | @word word h =>
    simp only [List.mem_cons, List.not_mem_nil, or_false] at h
    rcases h with rfl | rfl | rfl
    · exact ⟨'n', _, rfl, by decide, by decide⟩
    · exact ⟨'t', _, rfl, by decide, by decide⟩
    · exact ⟨'f', _, rfl, by decide, by decide⟩
  | numeral h =>
    obtain ⟨c, cs', rfl, hc⟩ := Literal.numeral_begins h
    exact ⟨c, cs', rfl, isGap_of_numeral hc, ne_of_numeral hc (by decide) (by decide)⟩
  | text => exact ⟨'"', _, rfl, by decide, by decide⟩
  | noElements => exact ⟨'[', _, rfl, by decide, by decide⟩
  | array => exact ⟨'[', _, rfl, by decide, by decide⟩
  | noMembers => exact ⟨'\x7b', _, rfl, by decide, by decide⟩
  | object => exact ⟨'\x7b', _, rfl, by decide, by decide⟩

theorem element_begins (h : Spells .element cs) (rest : List Char) :
    ∃ c cs', skip (cs ++ rest) = c :: cs' ∧ c ≠ ']' := by
  cases h with
  | element hbefore hv hbehind =>
    obtain ⟨c, cs', rfl, hgap, hc⟩ := value_begins hv
    rw [List.append_assoc, skip_gap hbefore, List.append_assoc, List.cons_append, skip_cons hgap]
    exact ⟨c, _, rfl, hc⟩

/-- Elements do not begin with the bracket that ends them. -/
theorem elements_begin (h : Spells .elements cs) (rest : List Char) :
    ∃ c cs', skip (cs ++ rest) = c :: cs' ∧ c ≠ ']' := by
  cases h with
  | lastElement h => exact element_begins h rest
  | moreElements h hs =>
    rw [List.append_assoc]
    exact element_begins h _

theorem member_begins (h : Spells .member cs) (rest : List Char) :
    ∃ cs', skip (cs ++ rest) = '"' :: cs' := by
  cases h with
  | member hbefore hname hbehind he =>
    rw [List.append_assoc, skip_gap hbefore, List.cons_append, skip_cons (by decide)]
    exact ⟨_, rfl⟩

theorem members_begin (h : Spells .members cs) (rest : List Char) :
    ∃ cs', skip (cs ++ rest) = '"' :: cs' := by
  cases h with
  | lastMember h => exact member_begins h rest
  | moreMembers h hs =>
    rw [List.append_assoc]
    exact member_begins h _

/-- The phrase is read up to its end, whatever may come behind it. -/
def Reads : Phrase → List Char → Prop
  | .value, cs => ∀ rest fuel, Apart rest → 2 * cs.length ≤ fuel →
    ∃ t, value? fuel (cs ++ rest) = some (t, rest)
  | .element, cs => ∀ rest fuel, Ends rest → 2 * cs.length ≤ fuel →
    ∃ t cs', value? fuel (cs ++ rest) = some (t, cs') ∧ skip cs' = rest
  | .elements, cs => ∀ rest fuel, 2 * cs.length + 1 ≤ fuel →
    ∃ ts, items? fuel (cs ++ ']' :: rest) = some (ts, rest)
  | .member, cs => ∀ rest fuel, Ends rest → 2 * cs.length ≤ fuel →
    ∃ m cs', ReadsMember fuel (cs ++ rest) m cs' ∧ skip cs' = rest
  | .members, cs => ∀ rest fuel, 2 * cs.length + 1 ≤ fuel →
    ∃ ms, members? fuel (cs ++ '\x7d' :: rest) = some (ms, rest)

/-- A value has a first character, so there is fuel for one step at least. -/
theorem reads_of_step (h : Spells .value cs)
    (hstep : ∀ rest fuel, Apart rest → 2 * cs.length ≤ fuel + 1 →
      ∃ t, value? (fuel + 1) (cs ++ rest) = some (t, rest)) : Reads .value cs := by
  intro rest fuel hrest hfuel
  obtain ⟨c, cs', rfl, -⟩ := value_begins h
  have hlength : 0 < fuel := by
    rw [List.length_cons] at hfuel
    omega
  obtain ⟨fuel, rfl⟩ := Nat.exists_eq_add_one.mpr hlength
  exact hstep rest fuel hrest hfuel

/-- Every phrase is read. There is fuel for two steps at each character: one for the value that
begins there, and one for the element or member that it belongs to. -/
theorem reads_of_spells {p : Phrase} (h : Spells p cs) : Reads p cs := by
  induction h with
  | @word word h =>
    refine reads_of_step (.word h) fun rest fuel _ _ => ?_
    simp only [List.mem_cons, List.not_mem_nil, or_false] at h
    rcases h with rfl | rfl | rfl
    · exact ⟨.null, rfl⟩
    · exact ⟨.bool true, rfl⟩
    · exact ⟨.bool false, rfl⟩
  | numeral h =>
    refine reads_of_step (.numeral h) fun rest fuel hrest _ => ?_
    obtain ⟨l, hl⟩ := Literal.read?_of_numeral h hrest
    obtain ⟨c, cs', rfl, hc⟩ := Literal.numeral_begins h
    refine ⟨.num l, ?_⟩
    rw [List.cons_append] at hl ⊢
    rw [value?_numeral hc, hl]
    rfl
  | text h =>
    refine reads_of_step (.text h) fun rest fuel _ _ => ?_
    obtain ⟨s, hs⟩ := text?_of_quotable h rest
    refine ⟨.str s, ?_⟩
    rw [List.cons_append, List.append_assoc, List.singleton_append, value?_text, hs]
    rfl
  | noElements h =>
    refine reads_of_step (.noElements h) fun rest fuel _ _ => ⟨.arr [], ?_⟩
    rw [List.cons_append, List.append_assoc, List.singleton_append]
    exact value?_noItems (by rw [skip_gap h, skip_cons (by decide)])
  | @array es h ih =>
    refine reads_of_step (.array h) fun rest fuel _ hfuel => ?_
    simp only [List.length_cons, List.length_append, List.length_nil] at hfuel
    obtain ⟨ts, hts⟩ := ih rest fuel (by omega)
    -- the reader looks past the gap for the bracket of an empty array
    obtain ⟨c, cs', hbegins, hc⟩ := elements_begin h (']' :: rest)
    refine ⟨.arr ts, ?_⟩
    rw [List.cons_append, List.append_assoc, List.singleton_append, value?_items hbegins hc,
      ← hbegins, items?_skip, hts]
    rfl
  | noMembers h =>
    refine reads_of_step (.noMembers h) fun rest fuel _ _ => ⟨.obj [], ?_⟩
    rw [List.cons_append, List.append_assoc, List.singleton_append]
    exact value?_noMembers (by rw [skip_gap h, skip_cons (by decide)])
  | @object ms h ih =>
    refine reads_of_step (.object h) fun rest fuel _ hfuel => ?_
    simp only [List.length_cons, List.length_append, List.length_nil] at hfuel
    obtain ⟨found, hfound⟩ := ih rest fuel (by omega)
    obtain ⟨cs', hbegins⟩ := members_begin h ('\x7d' :: rest)
    refine ⟨.obj found, ?_⟩
    rw [List.cons_append, List.append_assoc, List.singleton_append, value?_members hbegins,
      ← hbegins, members?_skip, hfound]
    rfl
  | @element before v behind hbefore hv hbehind ih =>
    intro rest fuel hrest hfuel
    simp only [List.length_append] at hfuel
    -- a gap behind the value ends it as well as what comes behind the element
    obtain ⟨t, ht⟩ := ih (behind ++ rest) fuel (apart_gap hbehind hrest) (by omega)
    refine ⟨t, behind ++ rest, ?_, by rw [skip_gap hbehind, skip_of_ends hrest]⟩
    rw [List.append_assoc, value?_gap hbefore, List.append_assoc, ht]
  | lastElement h ih =>
    intro rest fuel hfuel
    obtain ⟨fuel, rfl⟩ := Nat.exists_eq_add_one.mpr (show 0 < fuel by omega)
    obtain ⟨t, cs', ht, hend⟩ := ih (']' :: rest) fuel (ends_cons (.inr (.inl rfl))) (by omega)
    exact ⟨[t], items?_eq_some.mpr ⟨t, cs', ht, .inl ⟨hend, rfl⟩⟩⟩
  | @moreElements e es h hs ih ihs =>
    intro rest fuel hfuel
    simp only [List.length_append, List.length_cons] at hfuel
    obtain ⟨fuel, rfl⟩ := Nat.exists_eq_add_one.mpr (show 0 < fuel by omega)
    obtain ⟨t, cs', ht, hcomma⟩ :=
      ih (',' :: (es ++ ']' :: rest)) fuel (ends_cons (.inl rfl)) (by omega)
    obtain ⟨ts, hts⟩ := ihs rest fuel (by omega)
    refine ⟨t :: ts, ?_⟩
    rw [List.append_assoc, List.cons_append]
    exact items?_eq_some.mpr ⟨t, cs', ht, .inr ⟨_, ts, hcomma, hts, rfl⟩⟩
  | @member before name behind e hbefore hname hbehind h ih =>
    intro rest fuel hrest hfuel
    simp only [List.length_append, List.length_cons] at hfuel
    obtain ⟨s, hs⟩ := text?_of_quotable hname (behind ++ ':' :: (e ++ rest))
    obtain ⟨t, cs', ht, hend⟩ := ih rest fuel hrest (by omega)
    refine ⟨(s, t), cs', ⟨_, _, _, ?_, hs, ?_, ht⟩, hend⟩
    · rw [List.append_assoc, skip_gap hbefore, List.cons_append, skip_cons (by decide)]
      simp
    · rw [skip_gap hbehind, skip_cons (by decide)]
  | lastMember h ih =>
    intro rest fuel hfuel
    obtain ⟨fuel, rfl⟩ := Nat.exists_eq_add_one.mpr (show 0 < fuel by omega)
    obtain ⟨found, cs', hm, hend⟩ :=
      ih ('\x7d' :: rest) fuel (ends_cons (.inr (.inr rfl))) (by omega)
    exact ⟨[found], members?_eq_some.mpr ⟨found, cs', hm, .inl ⟨hend, rfl⟩⟩⟩
  | @moreMembers m ms h hs ih ihs =>
    intro rest fuel hfuel
    simp only [List.length_append, List.length_cons] at hfuel
    obtain ⟨fuel, rfl⟩ := Nat.exists_eq_add_one.mpr (show 0 < fuel by omega)
    obtain ⟨found, cs', hm, hcomma⟩ :=
      ih (',' :: (ms ++ '\x7d' :: rest)) fuel (ends_cons (.inl rfl)) (by omega)
    obtain ⟨more, hmore⟩ := ihs rest fuel (by omega)
    refine ⟨found :: more, ?_⟩
    rw [List.append_assoc, List.cons_append]
    exact members?_eq_some.mpr ⟨found, cs', hm, .inr ⟨_, more, hcomma, hmore, rfl⟩⟩

/-- The texts that have a tree are the documents. -/
theorem isSome_ofChars?_iff (cs : List Char) : (ofChars? cs).isSome ↔ Document cs := by
  unfold ofChars?
  constructor
  · intro h
    cases hread : value? (2 * cs.length + 2) cs with
    | none =>
      rw [hread] at h
      cases h
    | some found =>
      obtain ⟨t, rest⟩ := found
      rw [hread] at h
      have hend : skip rest = [] := by
        by_contra hne
        simp [hne] at h
      obtain ⟨e, he, hcs⟩ := begins_element ((spells_of_read _).1 _ _ _ hread) hend
      rwa [hcs, List.append_nil]
  · intro h
    obtain ⟨t, rest, hread, hend⟩ := reads_of_spells h [] (2 * cs.length + 2) ends_nil (by omega)
    rw [List.append_nil] at hread
    simp [hread, hend]

end

end Tree

/-- A text that is no document has no value. -/
theorem parse?_of_not_document {s : String} (h : ¬Grammar.Document s.toList) : parse? s = none := by
  have hnone : Tree.ofChars? s.toList = none :=
    Option.not_isSome_iff_eq_none.mp fun hsome => h ((Tree.isSome_ofChars?_iff _).mp hsome)
  rw [parse?, ofChars?, hnone, Option.bind_none]

end NodeStack.Json
