import NodeStack.Text.Blank
import NodeStack.Text.Split

/-!
# `NodeStack.Proofs.Text.Split`: cutting and trimming

* `after?_eq_some`: what follows a beginning.
* `cut?_eq_some`, `cut?_eq_none`: a text is cut at the first place where a character stands.
* `cut?_eq_some_iff`, `cut?_eq_none_iff`: so it is at a mark of several characters.
* `pieces_of_cut?`, `pieces_of_uncut`: the parts of a text, one cut at a time.
* `pieces_intercalate`: joined with a mark that none of them holds, they are what they were.
* `trimChars_concat`, `trimChars_dropReturn`: white space at the end does not matter to a trimmed
  line, so neither does the carriage return that a line may keep.
* `trimChars_of_trimmed`: a text without white space at its ends stays as it is.
* `linesFrom_lineFeed`, `linesFrom_char`: lines, one character at a time.
-/

set_option autoImplicit false

namespace NodeStack.Text

section
variable {c : Char} {cs before rest : List Char}

/-! ### Beginnings -/

/-- What follows a beginning is what the text has behind it. -/
theorem after?_eq_some {start : List Char} : after? start cs = some rest ↔ cs = start ++ rest := by
  induction start generalizing cs with
  | nil => simp [after?, eq_comm]
  | cons s start ih =>
    cases cs with
    | nil => simp [after?]
    | cons c cs =>
      rw [after?, List.cons_append, List.cons.injEq]
      by_cases h : s = c
      · simp [h, ih]
      · simp [h, Ne.symm h]

theorem after?_eq_none {start : List Char} : after? start cs = none ↔ ∀ r, cs ≠ start ++ r := by
  rw [Option.eq_none_iff_forall_ne_some]
  exact forall_congr' fun r => not_congr after?_eq_some

/-! ### Cutting at a character -/

theorem cut?_cons (c d : Char) (cs : List Char) :
    cut? [c] (d :: cs) =
      if c = d then some ([], cs) else (cut? [c] cs).map fun (b, r) => (d :: b, r) := by
  simp only [cut?, after?]
  by_cases h : c = d <;> simp [h]

theorem cut?_eq_none : cut? [c] cs = none ↔ c ∉ cs := by
  induction cs with
  | nil => simp [cut?]
  | cons d cs ih =>
    rw [cut?_cons]
    by_cases h : c = d <;> simp [h, ih]

theorem cut?_eq_some : cut? [c] cs = some (before, rest) ↔ cs = before ++ c :: rest ∧ c ∉ before := by
  induction cs generalizing before with
  | nil => simp [cut?]
  | cons d cs ih =>
    rw [cut?_cons]
    by_cases h : c = d
    · subst h
      cases before with
      | nil => simp [eq_comm]
      | cons b before =>
        have hne : ¬(c :: cs = b :: before ++ c :: rest ∧ c ∉ b :: before) := by
          rintro ⟨he, hb⟩
          exact hb (by rw [(List.cons.inj he).1]; exact List.mem_cons_self)
        simpa using hne
    · rw [if_neg h, Option.map_eq_some_iff]
      constructor
      · rintro ⟨⟨b, r⟩, hcut, he⟩
        obtain ⟨rfl, rfl⟩ := Prod.mk.inj he
        obtain ⟨rfl, hb⟩ := ih.mp hcut
        exact ⟨rfl, by simp [h, hb]⟩
      · rintro ⟨he, hb⟩
        cases before with
        | nil => exact absurd (List.cons.inj he).1.symm h
        | cons b before =>
          obtain ⟨rfl, rfl⟩ := List.cons.inj he
          rw [List.mem_cons, not_or] at hb
          exact ⟨(before, rest), ih.mpr ⟨rfl, hb.2⟩, rfl⟩

/-! ### Cutting at a text -/

/-- A text is cut where the separator stands first. -/
theorem cut?_eq_some_iff {sep : List Char} :
    cut? sep cs = some (before, rest) ↔
      cs = before ++ sep ++ rest ∧ ∀ b r, cs = b ++ sep ++ r → before.length ≤ b.length := by
  induction cs generalizing before with
  | nil =>
    rw [cut?]
    cases sep <;> simp +contextual
  | cons c cs ih =>
    rw [cut?]
    split
    · next found h =>
      have hcs := after?_eq_some.mp h
      constructor
      · intro he
        cases he
        exact ⟨hcs, fun b r _ => Nat.zero_le _⟩
      · rintro ⟨he, hfirst⟩
        obtain rfl := List.eq_nil_of_length_eq_zero (Nat.le_zero.mp (hfirst [] found hcs))
        rw [hcs, List.nil_append, List.append_cancel_left_eq] at he
        rw [he]
    · next h =>
      have hno := after?_eq_none.mp h
      rw [Option.map_eq_some_iff]
      constructor
      · rintro ⟨⟨b₀, r₀⟩, hcut, he⟩
        obtain ⟨rfl, rfl⟩ := Prod.mk.inj he
        obtain ⟨rfl, hfirst⟩ := ih.mp hcut
        refine ⟨rfl, fun b r he => ?_⟩
        cases b with
        | nil => exact absurd he (hno r)
        | cons d b => exact Nat.succ_le_succ (hfirst b r (List.cons.inj he).2)
      · rintro ⟨he, hfirst⟩
        cases before with
        | nil => exact absurd he (hno rest)
        | cons d before =>
          obtain ⟨rfl, htail⟩ := List.cons.inj he
          refine ⟨(before, rest), ih.mpr ⟨htail, fun b r hb => ?_⟩, rfl⟩
          exact Nat.le_of_succ_le_succ (hfirst (c :: b) r (congrArg (c :: ·) hb))

theorem cut?_eq_none_iff {sep : List Char} :
    cut? sep cs = none ↔ ∀ b r, cs ≠ b ++ sep ++ r := by
  induction cs with
  | nil => cases sep <;> simp [cut?]
  | cons c cs ih =>
    rw [cut?]
    split
    · next found h =>
      exact iff_of_false (by simp) fun hno => hno [] found (after?_eq_some.mp h)
    · next h =>
      rw [Option.map_eq_none_iff, ih]
      constructor
      · intro hno b r he
        cases b with
        | nil => exact after?_eq_none.mp h r he
        | cons d b => exact hno b r (List.cons.inj he).2
      · exact fun hno b r he => hno (c :: b) r (congrArg (c :: ·) he)

/-- A separator that holds a character which neither the text before it nor its own beginning holds
is found where it stands. -/
theorem cut?_of_marked {lead tail : List Char} (hb : c ∉ before) (hl : c ∉ lead)
    (rest : List Char) :
    cut? (lead ++ c :: tail) (before ++ (lead ++ c :: tail) ++ rest) = some (before, rest) := by
  refine cut?_eq_some_iff.mpr ⟨rfl, fun b r he => ?_⟩
  -- the character stands first within this separator, so no other place comes earlier
  have hcut : cut? [c] (before ++ lead ++ [c] ++ (tail ++ rest)) =
      some (before ++ lead, tail ++ rest) := by
    rw [cut?_eq_some, List.mem_append, not_or]
    exact ⟨by simp, hb, hl⟩
  have hother : before ++ lead ++ [c] ++ (tail ++ rest) = b ++ lead ++ [c] ++ (tail ++ r) := by
    simpa using he
  have hle := (cut?_eq_some_iff.mp hcut).2 _ _ hother
  simp only [List.length_append] at hle
  omega

theorem cut?_of_unmarked {lead tail : List Char} (h : c ∉ cs) : cut? (lead ++ c :: tail) cs = none := by
  refine cut?_eq_none_iff.mpr fun b r he => h ?_
  rw [he]
  simp

theorem pieces_of_uncut {sep : List Char} (h : cut? sep cs = none) : pieces sep cs = [cs] := by
  rw [pieces]
  split
  · rfl
  · split
    · rfl
    · next hcut =>
      rw [h] at hcut
      cases hcut

theorem pieces_of_cut? {sep : List Char} (hsep : sep ≠ []) (h : cut? sep cs = some (before, rest)) :
    pieces sep cs = before :: pieces sep rest := by
  rw [pieces, dif_neg hsep]
  split
  · next hcut =>
    rw [h] at hcut
    cases hcut
  · next hcut =>
    rw [h] at hcut
    cases hcut
    rfl

/-- Texts joined with a separator are its pieces, if the separator holds a character that none of
them holds. -/
theorem pieces_intercalate {lead tail : List Char} {parts : List (List Char)} (hne : parts ≠ [])
    (hl : c ∉ lead) (h : ∀ part ∈ parts, c ∉ part) :
    pieces (lead ++ c :: tail) ((lead ++ c :: tail).intercalate parts) = parts := by
  induction parts with
  | nil => exact absurd rfl hne
  | cons part parts ih =>
    have hpart : c ∉ part := h part List.mem_cons_self
    cases parts with
    | nil =>
      rw [List.intercalate_singleton]
      exact pieces_of_uncut (cut?_of_unmarked hpart)
    | cons next parts =>
      rw [List.intercalate_cons_cons, pieces_of_cut? (by simp) (cut?_of_marked hpart hl _),
        ih (List.cons_ne_nil _ _) fun p hp => h p (List.mem_cons_of_mem _ hp)]

/-! ### Trimming -/

theorem trimEnd_concat {p : Char → Bool} (h : p c = true) (cs : List Char) :
    trimEnd p (cs ++ [c]) = trimEnd p cs := by
  simp [trimEnd, h]

/-- White space at the end is trimmed away. -/
theorem trimChars_concat (h : isBlank c = true) (cs : List Char) :
    trimChars (cs ++ [c]) = trimChars cs := by
  unfold trimChars
  rw [List.dropWhile_append]
  split
  · next hall =>
    rw [List.isEmpty_iff.mp hall]
    simp [h]
  · exact trimEnd_concat h _

/-- No white space stands at either end. -/
def Trimmed (cs : List Char) : Prop :=
  (∀ c ∈ cs.head?, isBlank c = false) ∧ ∀ c ∈ cs.getLast?, isBlank c = false

theorem trimEnd_eq_self {p : Char → Bool} (h : ∀ c ∈ cs.getLast?, p c = false) :
    trimEnd p cs = cs := by
  rcases List.eq_nil_or_concat cs with rfl | ⟨front, last, rfl⟩
  · rfl
  · rw [List.concat_eq_append] at h ⊢
    have hlast : p last = false := h last (by simp)
    simp [trimEnd, hlast]

/-- Where no white space stands at either end, none is trimmed away. -/
theorem trimChars_of_trimmed (h : Trimmed cs) : trimChars cs = cs := by
  have hdrop : cs.dropWhile isBlank = cs := by
    cases cs with
    | nil => rfl
    | cons d ds => rw [List.dropWhile_cons_of_neg (by simp [h.1 d (by simp)])]
  rw [trimChars, hdrop, trimEnd_eq_self h.2]

/-- A character that is not white space survives trimming. -/
theorem mem_trimChars (h : isBlank c = false) : c ∈ trimChars cs ↔ c ∈ cs := by
  have hdrop : ∀ ds : List Char, c ∈ ds.dropWhile isBlank ↔ c ∈ ds := by
    intro ds
    refine ⟨fun hc => (List.dropWhile_sublist isBlank).subset hc, fun hc => ?_⟩
    rw [← List.takeWhile_append_dropWhile (p := isBlank) (l := ds), List.mem_append] at hc
    rcases hc with hc | hc
    · rw [List.all_eq_true.mp List.all_takeWhile c hc] at h
      cases h
    · exact hc
  rw [trimChars, trimEnd, List.mem_reverse, hdrop, List.mem_reverse, hdrop]

end

/-! ### Lines -/

theorem dropReturn_cases (line : List Char) :
    dropReturn line = line ∨ line = dropReturn line ++ ['\r'] := by
  unfold dropReturn
  split
  · next rest h =>
    refine .inr ?_
    rw [← List.reverse_cons, ← h, List.reverse_reverse]
  · exact .inl rfl

/-- The carriage return before a line feed makes no difference to a trimmed line. -/
theorem trimChars_dropReturn (line : List Char) : trimChars (dropReturn line) = trimChars line := by
  rcases dropReturn_cases line with h | h
  · rw [h]
  · rw [h, trimChars_concat (by decide), ← h]

theorem linesFrom_lineFeed (current cs : List Char) :
    linesFrom current ('\n' :: cs) = dropReturn current.reverse :: linesFrom [] cs := by
  cases current <;> rfl

theorem linesFrom_char {c : Char} (h : c ≠ '\n') (current cs : List Char) :
    linesFrom current (c :: cs) = linesFrom (c :: current) cs :=
  linesFrom.eq_4 current c cs (by simp [h])

theorem linesFrom_of_not_mem {cs : List Char} (current : List Char) (h : '\n' ∉ cs) :
    linesFrom current cs = linesFrom (cs.reverse ++ current) [] := by
  induction cs generalizing current with
  | nil => rfl
  | cons c cs ih =>
    rw [List.mem_cons, not_or] at h
    rw [linesFrom_char (Ne.symm h.1), ih _ h.2]
    simp

/-- Without a line feed there is one line, or none if there are no characters. -/
theorem mem_lines_of_not_mem {cs line : List Char} (h : '\n' ∉ cs) (hl : line ∈ lines cs) :
    line = cs := by
  rw [lines, linesFrom_of_not_mem [] h, List.append_nil] at hl
  cases hcs : cs.reverse with
  | nil =>
    rw [hcs] at hl
    cases hl
  | cons c rest =>
    rw [hcs, linesFrom, ← hcs, List.reverse_reverse] at hl
    exact List.mem_singleton.mp hl

end NodeStack.Text
