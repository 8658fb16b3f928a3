import NodeStack.Json.Tree

/-!
# `NodeStack.Proofs.Json.Reader`: one step of the reader

A value is told by how it begins. Behind an element of an array comes a comma or the bracket that
ends it, and so it is with the members of an object.

* `value?_text`, `value?_items`, `value?_members`, `value?_numeral`: what is read from a beginning.
* `cases_of_value?`: the other way about, what a value can be that was read.
* `items?_eq_some`, `members?_eq_some`: one element or member, and then more of them or the end.
-/

set_option autoImplicit false

namespace NodeStack.Json.Tree

section
variable {fuel : Nat} {c : Char} {cs rest : List Char} {t : Tree} {ts : List Tree}
  {ms : List (Option String × Tree)}

/-! ### How a value begins -/

theorem skip_cons (h : isGap c = false) : skip (c :: cs) = c :: cs := by
  rw [skip, List.dropWhile_cons_of_neg (by simp [h])]

theorem skip_bracket (cs : List Char) : skip ('[' :: cs) = '[' :: cs := skip_cons (by decide)

theorem skip_brace (cs : List Char) : skip ('\x7b' :: cs) = '\x7b' :: cs := skip_cons (by decide)

/-- A numeral begins with a minus sign or a digit, and so with no other character. -/
theorem ne_of_numeral {other : Char} (hc : c = '-' ∨ c.isDigit) (hminus : other ≠ '-')
    (hdigit : other.isDigit = false) : c ≠ other := by
  rintro rfl
  rcases hc with rfl | hc
  · exact hminus rfl
  · rw [hdigit] at hc
    cases hc

theorem isGap_of_numeral (hc : c = '-' ∨ c.isDigit) : isGap c = false := by
  have hblank := ne_of_numeral hc (show ' ' ≠ '-' by decide) (by decide)
  have hline := ne_of_numeral hc (show '\n' ≠ '-' by decide) (by decide)
  have htab := ne_of_numeral hc (show '\t' ≠ '-' by decide) (by decide)
  have hreturn := ne_of_numeral hc (show '\r' ≠ '-' by decide) (by decide)
  simp [isGap, hblank, hline, htab, hreturn]

theorem word?_eq_some {word : List Char} : word? word cs = some rest ↔ cs = word ++ rest := by
  induction word generalizing cs with
  | nil => simp [word?]
  | cons w word ih =>
    cases cs with
    | nil => simp [word?]
    | cons c cs =>
      rw [word?, List.cons_append, List.cons.injEq]
      by_cases h : w = c
      · simp [h, ih]
      · simp [h, Ne.symm h]

theorem value?_text : value? (fuel + 1) ('"' :: cs) =
    (text? cs).map fun (s, rest) => (.str s, rest) := rfl

/-- An array is empty if its bracket comes next. -/
theorem value?_noItems (h : skip cs = ']' :: rest) :
    value? (fuel + 1) ('[' :: cs) = some (.arr [], rest) := by
  simp only [value?, skip_bracket, h]

/-- An array has items, unless its bracket comes next. -/
theorem value?_items (h : skip cs = c :: rest) (hc : c ≠ ']') :
    value? (fuel + 1) ('[' :: cs) =
      (items? fuel (c :: rest)).map fun (ts, rest) => (.arr ts, rest) := by
  simp only [value?, skip_bracket, h]
  split
  · next he => exact absurd (List.cons.inj he).1 hc
  · rfl

/-- An object is empty if its brace comes next. -/
theorem value?_noMembers (h : skip cs = '\x7d' :: rest) :
    value? (fuel + 1) ('\x7b' :: cs) = some (.obj [], rest) := by
  simp only [value?, skip_brace, h]

/-- An object has members, if a name comes next. -/
theorem value?_members (h : skip cs = '"' :: rest) :
    value? (fuel + 1) ('\x7b' :: cs) =
      (members? fuel ('"' :: rest)).map fun (ms, rest) => (.obj ms, rest) := by
  simp only [value?, skip_brace, h]
  rfl

theorem value?_numeral (hc : c = '-' ∨ c.isDigit) : value? (fuel + 1) (c :: cs) =
    (Literal.read? (c :: cs)).map fun (l, rest) => (.num l, rest) := by
  have hgap := isGap_of_numeral hc
  have hne : ∀ other, other ≠ '-' → other.isDigit = false → c ≠ other :=
    fun other => ne_of_numeral hc
  have hn : c ≠ 'n' := hne 'n' (by decide) (by decide)
  have ht : c ≠ 't' := hne 't' (by decide) (by decide)
  have hf : c ≠ 'f' := hne 'f' (by decide) (by decide)
  rw [value?, skip_cons hgap]
  -- a numeral is what is left when a value begins in none of the other ways
  split
  · next he => cases he
  · next he => exact absurd (List.cons.inj he).1 (hne '"' (by decide) (by decide))
  · next he => exact absurd (List.cons.inj he).1 (hne '[' (by decide) (by decide))
  · next he => exact absurd (List.cons.inj he).1 (hne '\x7b' (by decide) (by decide))
  · next he =>
    obtain ⟨rfl, rfl⟩ := List.cons.inj he
    rw [if_neg hn, if_neg ht, if_neg hf]

/-- What a value can be that is read, told by how it begins. -/
theorem cases_of_value? (h : value? (fuel + 1) cs = some (t, rest)) :
    (∃ cs' s, skip cs = '"' :: cs' ∧ text? cs' = some (s, rest)) ∨
    (∃ cs', skip cs = '[' :: cs' ∧
      (skip cs' = ']' :: rest ∨ ∃ ts, items? fuel (skip cs') = some (ts, rest))) ∨
    (∃ cs', skip cs = '\x7b' :: cs' ∧
      (skip cs' = '\x7d' :: rest ∨ ∃ ms, members? fuel (skip cs') = some (ms, rest))) ∨
    (∃ word ∈ ["null", "true", "false"], skip cs = word.toList ++ rest) ∨
    ∃ l, Literal.read? (skip cs) = some (l, rest) := by
  rw [value?] at h
  split at h
  · cases h
  · next cs' hcs =>
    obtain ⟨⟨s, rest'⟩, hs, he⟩ := Option.map_eq_some_iff.mp h
    cases he
    exact .inl ⟨cs', s, hcs, hs⟩
  · next cs' hcs =>
    refine .inr (.inl ⟨cs', hcs, ?_⟩)
    split at h
    · next hend =>
      cases h
      exact .inl hend
    · obtain ⟨⟨ts, rest'⟩, hts, he⟩ := Option.map_eq_some_iff.mp h
      cases he
      exact .inr ⟨ts, hts⟩
  · next cs' hcs =>
    refine .inr (.inr (.inl ⟨cs', hcs, ?_⟩))
    split at h
    · next hend =>
      cases h
      exact .inl hend
    · obtain ⟨⟨ms, rest'⟩, hms, he⟩ := Option.map_eq_some_iff.mp h
      cases he
      exact .inr ⟨ms, hms⟩
  · next c cs' _ _ _ hcs =>
    -- the first letter of a word has been looked at by then, and the others are still to be read
    have hword : ∀ (word : String) {more : List Char}, word ∈ ["null", "true", "false"] →
        word.toList = c :: more →
        ∀ {t' : Tree}, (word? more cs').map (fun rest => (t', rest)) = some (t, rest) →
        ∃ word ∈ ["null", "true", "false"], skip cs = word.toList ++ rest := by
      intro word more hmem hletters t' h
      obtain ⟨rest', hrest, he⟩ := Option.map_eq_some_iff.mp h
      cases he
      exact ⟨word, hmem, by rw [hcs, hletters, word?_eq_some.mp hrest, List.cons_append]⟩
    refine .inr (.inr (.inr ?_))
    split at h
    · next hc => exact .inl (hword "null" (by decide) (by rw [hc]; rfl) h)
    split at h
    · next hc => exact .inl (hword "true" (by decide) (by rw [hc]; rfl) h)
    split at h
    · next hc => exact .inl (hword "false" (by decide) (by rw [hc]; rfl) h)
    · obtain ⟨⟨l, rest'⟩, hl, he⟩ := Option.map_eq_some_iff.mp h
      cases he
      exact .inr ⟨l, by rw [hcs, hl]⟩

/-! ### What comes behind a value -/

/-- One element is read, and then a comma and more elements, or the end. -/
theorem items?_eq_some : items? (fuel + 1) cs = some (ts, rest) ↔
    ∃ t cs₁, value? fuel cs = some (t, cs₁) ∧
      ((skip cs₁ = ']' :: rest ∧ ts = [t]) ∨
        ∃ cs₂ ts', skip cs₁ = ',' :: cs₂ ∧ items? fuel cs₂ = some (ts', rest) ∧
          ts = t :: ts') := by
  rw [items?, Option.bind_eq_bind, Option.bind_eq_some_iff]
  constructor
  · rintro ⟨⟨t, cs₁⟩, ht, h⟩
    refine ⟨t, cs₁, ht, ?_⟩
    dsimp only at h
    split at h
    · next cs₂ hcs =>
      obtain ⟨⟨ts', rest'⟩, hts, he⟩ := Option.bind_eq_some_iff.mp h
      cases he
      exact .inr ⟨cs₂, ts', hcs, hts, rfl⟩
    · next hcs =>
      cases h
      exact .inl ⟨hcs, rfl⟩
    · cases h
  · rintro ⟨t, cs₁, ht, ⟨hcs, rfl⟩ | ⟨cs₂, ts', hcs, hts, rfl⟩⟩
    · refine ⟨(t, cs₁), ht, ?_⟩
      dsimp only
      rw [hcs]
      rfl
    · refine ⟨(t, cs₁), ht, ?_⟩
      dsimp only
      rw [hcs]
      show (items? fuel cs₂).bind _ = _
      rw [hts]
      rfl

/-- A name, a colon and a value are read. -/
def ReadsMember (fuel : Nat) (cs : List Char) (m : Option String × Tree) (rest : List Char) :
    Prop :=
  ∃ cs₁ cs₂ cs₃, skip cs = '"' :: cs₁ ∧ text? cs₁ = some (m.1, cs₂) ∧ skip cs₂ = ':' :: cs₃ ∧
    value? fuel cs₃ = some (m.2, rest)

/-- One member is read, and then a comma and more members, or the end. -/
theorem members?_eq_some : members? (fuel + 1) cs = some (ms, rest) ↔
    ∃ m cs₁, ReadsMember fuel cs m cs₁ ∧
      ((skip cs₁ = '\x7d' :: rest ∧ ms = [m]) ∨
        ∃ cs₂ ms', skip cs₁ = ',' :: cs₂ ∧ members? fuel cs₂ = some (ms', rest) ∧
          ms = m :: ms') := by
  constructor
  · intro h
    rw [members?] at h
    split at h
    · next cs₁ hcs =>
      obtain ⟨⟨name, cs₂⟩, hname, h⟩ := Option.bind_eq_some_iff.mp h
      dsimp only at h
      split at h
      · next cs₃ hcolon =>
        obtain ⟨⟨t, cs₄⟩, ht, h⟩ := Option.bind_eq_some_iff.mp h
        refine ⟨(name, t), cs₄, ⟨cs₁, cs₂, cs₃, hcs, hname, hcolon, ht⟩, ?_⟩
        dsimp only at h
        split at h
        · next cs₅ hcomma =>
          obtain ⟨⟨ms', rest'⟩, hms, he⟩ := Option.bind_eq_some_iff.mp h
          cases he
          exact .inr ⟨cs₅, ms', hcomma, hms, rfl⟩
        · next hend =>
          cases h
          exact .inl ⟨hend, rfl⟩
        · cases h
      · cases h
    · cases h
  · rintro ⟨⟨name, t⟩, cs₄, ⟨cs₁, cs₂, cs₃, hcs, hname, hcolon, ht⟩, h⟩
    rw [members?, hcs]
    show (text? cs₁).bind _ = _
    rw [hname, Option.bind_some]
    dsimp only
    rw [hcolon]
    show (value? fuel cs₃).bind _ = _
    rw [ht, Option.bind_some]
    dsimp only
    rcases h with ⟨hend, rfl⟩ | ⟨cs₅, ms', hcomma, hms, rfl⟩
    · rw [hend]
      rfl
    · rw [hcomma]
      show (members? fuel cs₅).bind _ = _
      rw [hms]
      rfl

end

end NodeStack.Json.Tree
