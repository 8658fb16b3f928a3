import Mathlib.Data.List.TakeWhile
import NodeStack.Proofs.Json.Numeral
import NodeStack.Proofs.Json.Quoted
import NodeStack.Proofs.Json.Reader

/-!
# `NodeStack.Proofs.Json.Grammar`: the grammar of JSON, and its tokens

The grammar says what a document is without regard to how a text is read: `Spells` has one
constructor for each of its rules, and `Document` is a value with blanks on either side. Its rules
for texts and numbers are `Quotable` and `Numeral`.

The tokens are read as the grammar has them. A text ends at its closing quote, whatever comes
behind. A number has no end of its own and is read as far as it goes, so here it matters what comes
behind: a blank, a comma or a bracket does not go on with it (`apart_gap`).

* `exists_gap`, `skip_gap`: what is skipped are blanks, and blanks are skipped.
* `quotable_of_text?`, `text?_of_quotable`: what is read up to a closing quote.
* `numeral_of_read?`, `read?_of_numeral`: what is read as a number.
-/

set_option autoImplicit false

namespace NodeStack.Json

/-! ### The grammar -/

namespace Grammar

/-- Blanks, as they may stand between tokens. -/
def Gap (cs : List Char) : Prop :=
  ∀ c ∈ cs, c = ' ' ∨ c = '\n' ∨ c = '\t' ∨ c = '\r'

/-- A hexadecimal digit. -/
def IsHex (c : Char) : Prop :=
  c.isDigit ∨ ('a' ≤ c ∧ c ≤ 'f') ∨ ('A' ≤ c ∧ c ≤ 'F')

/-- What may stand between quotes. -/
inductive Quotable : List Char → Prop where
  | nil : Quotable []
  /-- A character stands for itself, unless it is a control character. -/
  | plain {c : Char} {cs : List Char} (hquote : c ≠ '"') (hback : c ≠ '\\') (hc : 0x20 ≤ c.toNat)
    (h : Quotable cs) : Quotable (c :: cs)
  /-- An escape of one letter. -/
  | letter {c : Char} {cs : List Char} (hc : c ∈ ['"', '\\', '/', 'b', 'f', 'n', 'r', 't'])
    (h : Quotable cs) : Quotable ('\\' :: c :: cs)
  /-- An escape of four digits. -/
  | unit {c₁ c₂ c₃ c₄ : Char} {cs : List Char} (hc : ∀ c ∈ [c₁, c₂, c₃, c₄], IsHex c)
    (h : Quotable cs) : Quotable ('\\' :: 'u' :: c₁ :: c₂ :: c₃ :: c₄ :: cs)

/-- Decimal digits, one at least. -/
def Digits (cs : List Char) : Prop :=
  cs ≠ [] ∧ ∀ c ∈ cs, c.isDigit

/-- The digits before the point: a zero alone, or digits that do not begin with one. -/
def Whole (cs : List Char) : Prop :=
  Digits cs ∧ (cs.head? = some '0' → cs = ['0'])

/-- The point and the digits behind it, if there are any. -/
def Places (cs : List Char) : Prop :=
  cs = [] ∨ ∃ ds, Digits ds ∧ cs = '.' :: ds

/-- The exponent, if there is one. -/
def Exponent (cs : List Char) : Prop :=
  cs = [] ∨ ∃ e sign ds, (e = 'e' ∨ e = 'E') ∧ (sign = [] ∨ sign = ['+'] ∨ sign = ['-']) ∧
    Digits ds ∧ cs = e :: (sign ++ ds)

/-- A number. -/
def Numeral (cs : List Char) : Prop :=
  ∃ minus whole places exponent, (minus = [] ∨ minus = ['-']) ∧ Whole whole ∧ Places places ∧
    Exponent exponent ∧ cs = minus ++ (whole ++ (places ++ exponent))

/-- The phrases of the grammar. -/
inductive Phrase where
  | value
  /-- A value with blanks on either side. -/
  | element
  /-- Elements with commas between them, one at least. -/
  | elements
  /-- A name, a colon and an element. -/
  | member
  /-- Members with commas between them, one at least. -/
  | members

/-- The grammar: which texts are which phrase. -/
inductive Spells : Phrase → List Char → Prop where
  | word {word : String} (h : word ∈ ["null", "true", "false"]) : Spells .value word.toList
  | numeral {cs : List Char} (h : Numeral cs) : Spells .value cs
  | text {cs : List Char} (h : Quotable cs) : Spells .value ('"' :: (cs ++ ['"']))
  | noElements {gap : List Char} (h : Gap gap) : Spells .value ('[' :: (gap ++ [']']))
  | array {es : List Char} (h : Spells .elements es) : Spells .value ('[' :: (es ++ [']']))
  | noMembers {gap : List Char} (h : Gap gap) : Spells .value ('\x7b' :: (gap ++ ['\x7d']))
  | object {ms : List Char} (h : Spells .members ms) : Spells .value ('\x7b' :: (ms ++ ['\x7d']))
  | element {before v behind : List Char} (hbefore : Gap before) (h : Spells .value v)
    (hbehind : Gap behind) : Spells .element (before ++ (v ++ behind))
  | lastElement {e : List Char} (h : Spells .element e) : Spells .elements e
  | moreElements {e es : List Char} (h : Spells .element e) (hs : Spells .elements es) :
    Spells .elements (e ++ ',' :: es)
  | member {before name behind e : List Char} (hbefore : Gap before) (hname : Quotable name)
    (hbehind : Gap behind) (h : Spells .element e) :
    Spells .member (before ++ '"' :: (name ++ '"' :: (behind ++ ':' :: e)))
  | lastMember {m : List Char} (h : Spells .member m) : Spells .members m
  | moreMembers {m ms : List Char} (h : Spells .member m) (hs : Spells .members ms) :
    Spells .members (m ++ ',' :: ms)

/-- One complete JSON document. -/
def Document (cs : List Char) : Prop := Spells .element cs

/-! ### Blanks -/

section
variable {gap cs rest : List Char}

theorem Gap.append {more : List Char} (h : Gap gap) (hmore : Gap more) : Gap (gap ++ more) := by
  intro c hc
  rcases List.mem_append.mp hc with hc | hc
  · exact h c hc
  · exact hmore c hc

/-- Blanks before a phrase are part of its first element. -/
theorem Spells.elements_gap (hgap : Gap gap) (h : Spells .elements cs) :
    Spells .elements (gap ++ cs) := by
  have hfirst : ∀ {e}, Spells .element e → Spells .element (gap ++ e) := by
    rintro _ (_ | _ | _ | _ | _ | _ | _ | ⟨hbefore, hv, hbehind⟩)
    rw [← List.append_assoc]
    exact .element (hgap.append hbefore) hv hbehind
  cases h with
  | lastElement h => exact .lastElement (hfirst h)
  | moreElements h hs =>
    rw [← List.append_assoc]
    exact .moreElements (hfirst h) hs

theorem Spells.members_gap (hgap : Gap gap) (h : Spells .members cs) :
    Spells .members (gap ++ cs) := by
  have hfirst : ∀ {m}, Spells .member m → Spells .member (gap ++ m) := by
    intro m hm
    cases hm with
    | member hbefore hname hbehind he =>
      rw [← List.append_assoc]
      exact .member (hgap.append hbefore) hname hbehind he
  cases h with
  | lastMember h => exact .lastMember (hfirst h)
  | moreMembers h hs =>
    rw [← List.append_assoc]
    exact .moreMembers (hfirst h) hs

end

end Grammar

namespace Tree

open Grammar

section
variable {gap cs rest : List Char} {c : Char}

theorem isGap_iff : isGap c = true ↔ c = ' ' ∨ c = '\n' ∨ c = '\t' ∨ c = '\r' := by
  simp [isGap, or_assoc]

/-- What is skipped are blanks. -/
theorem exists_gap (cs : List Char) : ∃ gap, Gap gap ∧ cs = gap ++ skip cs := by
  refine ⟨cs.takeWhile isGap, fun c hc => isGap_iff.mp ?_, List.takeWhile_append_dropWhile.symm⟩
  exact List.mem_takeWhile_imp hc

/-- Blanks are skipped. -/
theorem skip_gap (h : Gap gap) (cs : List Char) : skip (gap ++ cs) = skip cs :=
  List.dropWhile_append_of_pos fun c hc => isGap_iff.mpr (h c hc)

theorem skip_of_ends (h : Ends rest) : skip rest = rest := by
  cases rest with
  | nil => rfl
  | cons c rest => exact skip_cons (by rcases h c rfl with rfl | rfl | rfl <;> decide)

/-- Blanks do not go on with a numeral. -/
theorem apart_gap (hgap : Gap gap) (h : Ends rest) : Apart (gap ++ rest) := by
  cases gap with
  | nil => exact h.apart
  | cons c gap =>
    rintro _ ⟨⟩
    rcases hgap c List.mem_cons_self with rfl | rfl | rfl | rfl <;> decide

end

/-! ### Texts -/

section
variable {cs rest : List Char}

theorem isSome_hex?_iff {c : Char} : (hex? c).isSome ↔ IsHex c := by
  have hdigit : c.isDigit = ('0' ≤ c && c ≤ '9') := rfl
  rw [IsHex, hdigit, hex?]
  by_cases h₁ : ('0' ≤ c && c ≤ '9') = true
  · simp [h₁]
  by_cases h₂ : ('a' ≤ c && c ≤ 'f') = true
  · rw [if_neg h₁, if_pos h₂]
    simp only [Bool.and_eq_true, decide_eq_true_eq] at h₂
    simp [h₂]
  by_cases h₃ : ('A' ≤ c && c ≤ 'F') = true
  · rw [if_neg h₁, if_neg h₂, if_pos h₃]
    simp only [Bool.and_eq_true, decide_eq_true_eq] at h₃
    simp [h₃]
  · rw [if_neg h₁, if_neg h₂, if_neg h₃]
    simp only [Bool.and_eq_true, decide_eq_true_eq] at h₁ h₂ h₃
    simp [h₁, h₂, h₃]

theorem isSome_escape?_iff {c : Char} :
    (escape? c).isSome ↔ c ∈ ['"', '\\', '/', 'b', 'f', 'n', 'r', 't'] := by
  unfold escape?
  split <;> simp_all

theorem isSome_unit?_iff {c₁ c₂ c₃ c₄ : Char} :
    (unit? c₁ c₂ c₃ c₄).isSome ↔ ∀ c ∈ [c₁, c₂, c₃, c₄], IsHex c := by
  simp only [List.forall_mem_cons, List.not_mem_nil, false_imp_iff, implies_true, and_true,
    ← isSome_hex?_iff]
  unfold unit?
  cases hex? c₁ <;> cases hex? c₂ <;> cases hex? c₃ <;> cases hex? c₄ <;> simp

/-- What is read up to a closing quote may stand between quotes. -/
theorem quotable_of_pieces? {ps : List Piece} (h : pieces? cs = some (ps, rest)) :
    ∃ body, Quotable body ∧ cs = body ++ '"' :: rest := by
  induction cs using pieces?.induct generalizing ps rest with
  | case1 => cases h
  | case2 cs =>
    cases h
    exact ⟨[], .nil, rfl⟩
  | case3 c₁ c₂ c₃ c₄ cs ih =>
    rw [pieces?.eq_3] at h
    simp only [Option.bind_eq_bind, Option.bind_eq_some_iff] at h
    obtain ⟨u, hu, ⟨ps', rest'⟩, hps, he⟩ := h
    cases he
    obtain ⟨body, hbody, rfl⟩ := ih hps
    have hhex := isSome_unit?_iff.mp (by rw [hu]; rfl)
    exact ⟨_, .unit hhex hbody, rfl⟩
  | case4 c cs hunit ih =>
    rw [pieces?.eq_4 c cs hunit] at h
    simp only [Option.bind_eq_bind, Option.bind_eq_some_iff] at h
    obtain ⟨d, hd, ⟨ps', rest'⟩, hps, he⟩ := h
    cases he
    obtain ⟨body, hbody, rfl⟩ := ih hps
    have hletter := isSome_escape?_iff.mp (by rw [hd]; rfl)
    exact ⟨_, .letter hletter hbody, rfl⟩
  | case5 c cs hquote hunit hletter hbad =>
    rw [pieces?.eq_5 c cs hquote hunit hletter, if_pos hbad] at h
    cases h
  | case6 c cs hquote hunit hletter hgood ih =>
    rw [pieces?.eq_5 c cs hquote hunit hletter, if_neg hgood] at h
    simp only [Option.bind_eq_bind, Option.bind_eq_some_iff] at h
    obtain ⟨⟨ps', rest'⟩, hps, he⟩ := h
    cases he
    obtain ⟨body, hbody, rfl⟩ := ih hps
    simp only [Bool.or_eq_true, decide_eq_true_eq, not_or, Nat.not_lt] at hgood
    exact ⟨_, .plain (fun he => hquote he) hgood.1 hgood.2 hbody, rfl⟩

/-- What may stand between quotes is read up to the closing one. -/
theorem pieces?_of_quotable (h : Quotable cs) (rest : List Char) :
    ∃ ps, pieces? (cs ++ '"' :: rest) = some (ps, rest) := by
  induction h with
  | nil => exact ⟨[], rfl⟩
  | plain hquote hback hc _ ih =>
    obtain ⟨ps, hps⟩ := ih
    rw [List.cons_append, pieces?_plain hquote hback (Nat.not_lt.mpr hc), hps]
    exact ⟨_, rfl⟩
  | letter hc _ ih =>
    obtain ⟨ps, hps⟩ := ih
    obtain ⟨d, hd⟩ := Option.isSome_iff_exists.mp (isSome_escape?_iff.mpr hc)
    rw [List.cons_append, List.cons_append, pieces?_letter hd, hps]
    exact ⟨_, rfl⟩
  | @unit c₁ c₂ c₃ c₄ cs hc _ ih =>
    obtain ⟨ps, hps⟩ := ih
    obtain ⟨u, hu⟩ := Option.isSome_iff_exists.mp (isSome_unit?_iff.mpr hc)
    refine ⟨pieceOfUnit u :: ps, ?_⟩
    show pieces? ('\\' :: 'u' :: c₁ :: c₂ :: c₃ :: c₄ :: (cs ++ '"' :: rest)) = _
    rw [pieces?.eq_3, hu, hps]
    rfl

theorem quotable_of_text? {s : Option String} (h : text? cs = some (s, rest)) :
    ∃ body, Quotable body ∧ cs = body ++ '"' :: rest := by
  simp only [text?, Option.bind_eq_bind, Option.bind_eq_some_iff] at h
  obtain ⟨⟨ps, rest'⟩, hps, he⟩ := h
  cases he
  exact quotable_of_pieces? hps

theorem text?_of_quotable (h : Quotable cs) (rest : List Char) :
    ∃ s, text? (cs ++ '"' :: rest) = some (s, rest) := by
  obtain ⟨ps, hps⟩ := pieces?_of_quotable h rest
  exact ⟨(join? ps).map String.ofList, by rw [text?, hps]; rfl⟩

end

end Tree

/-! ### Numbers -/

namespace Literal

open Grammar

section
variable {cs ds rest : List Char}

/-- What is taken as digits are digits. -/
theorem exists_digits (cs : List Char) :
    ∃ ds, (∀ c ∈ ds, c.isDigit) ∧ digits cs = (ds.map digitOf, (digits cs).2) ∧
      cs = ds ++ (digits cs).2 := by
  induction cs with
  | nil => exact ⟨[], by simp, rfl, rfl⟩
  | cons c cs ih =>
    obtain ⟨ds, hds, he, hcs⟩ := ih
    cases hc : c.isDigit with
    | true =>
      refine ⟨c :: ds, List.forall_mem_cons.mpr ⟨hc, hds⟩, ?_, ?_⟩
      · rw [digits, digit?_eq hc, he]
        rfl
      · rw [digits, digit?_eq hc]
        show c :: cs = c :: (ds ++ (digits cs).2)
        rw [← hcs]
    | false =>
      refine ⟨[], by simp, ?_, ?_⟩
      · rw [digits, digit?_eq_none hc]
        rfl
      · rw [digits, digit?_eq_none hc]
        rfl

theorem digitOf_eq_zero_iff {c : Char} (h : c.isDigit) : digitOf c = 0 ↔ c = '0' := by
  refine ⟨fun hzero => ?_, by rintro rfl; rfl⟩
  have hrange : '0' ≤ c := by
    have hc : ('0' ≤ c && c ≤ '9') = true := h
    simp only [Bool.and_eq_true, decide_eq_true_eq] at hc
    exact hc.1
  have hle : '0'.toNat ≤ c.toNat := hrange
  have hzero : c.toNat - '0'.toNat = 0 := hzero
  exact Char.toNat_inj.mp (by omega)

theorem digits_of_someDigits? {found : List Nat} (h : someDigits? cs = some (found, rest)) :
    ∃ ds, Digits ds ∧ cs = ds ++ rest := by
  obtain ⟨ds, hds, he, hcs⟩ := exists_digits cs
  rw [someDigits?, he] at h
  split at h
  · cases h
  · next hne =>
    cases h
    refine ⟨ds, ⟨?_, hds⟩, hcs⟩
    rintro rfl
    exact hne _ rfl

theorem whole_of_wholePart? {found : List Nat} (h : wholePart? cs = some (found, rest)) :
    ∃ ds, Whole ds ∧ cs = ds ++ rest := by
  obtain ⟨ds, hds, he, hcs⟩ := exists_digits cs
  rw [wholePart?, he] at h
  split at h
  · cases h
  · cases h
  · next hne hzero =>
    cases h
    refine ⟨ds, ⟨⟨?_, hds⟩, fun hhead => ?_⟩, hcs⟩
    · rintro rfl
      exact hne _ rfl
    · -- no digit stands behind a zero that comes first
      obtain ⟨more, rfl⟩ := List.head?_eq_some_iff.mp hhead
      cases more with
      | nil => rfl
      | cons d more => exact (hzero _ _ _ rfl).elim

theorem places_of_placesPart? {found : Option (List Nat)}
    (h : placesPart? cs = some (found, rest)) : ∃ ds, Places ds ∧ cs = ds ++ rest := by
  unfold placesPart? at h
  split at h
  · obtain ⟨⟨ds, rest'⟩, hds, he⟩ := Option.map_eq_some_iff.mp h
    cases he
    obtain ⟨ds, hdigits, rfl⟩ := digits_of_someDigits? hds
    exact ⟨'.' :: ds, .inr ⟨ds, hdigits, rfl⟩, rfl⟩
  · cases h
    exact ⟨[], .inl rfl, rfl⟩

theorem exists_exponentSign (cs : List Char) :
    ∃ sign, (sign = [] ∨ sign = ['+'] ∨ sign = ['-']) ∧ cs = sign ++ (exponentSign cs).2 := by
  unfold exponentSign
  split
  · exact ⟨['-'], .inr (.inr rfl), rfl⟩
  · exact ⟨['+'], .inr (.inl rfl), rfl⟩
  · exact ⟨[], .inl rfl, rfl⟩

theorem exponent_of_exponentPart? {found : Option (Bool × List Nat)}
    (h : exponentPart? cs = some (found, rest)) : ∃ ds, Exponent ds ∧ cs = ds ++ rest := by
  cases cs with
  | nil =>
    cases h
    exact ⟨[], .inl rfl, rfl⟩
  | cons e cs =>
    rw [exponentPart?] at h
    split at h
    · next he =>
      simp only [Bool.or_eq_true, decide_eq_true_eq] at he
      obtain ⟨⟨ds, rest'⟩, hds, hsame⟩ := Option.map_eq_some_iff.mp h
      cases hsame
      obtain ⟨sign, hsign, hcs⟩ := exists_exponentSign cs
      obtain ⟨ds, hdigits, hrest⟩ : ∃ ds, Digits ds ∧ (exponentSign cs).2 = ds ++ rest :=
        digits_of_someDigits? hds
      refine ⟨e :: (sign ++ ds), .inr ⟨e, sign, ds, he, hsign, hdigits, rfl⟩, ?_⟩
      rw [List.cons_append, List.append_assoc, ← hrest, ← hcs]
    · cases h
      exact ⟨[], .inl rfl, rfl⟩

theorem exists_sign (cs : List Char) :
    ∃ minus, (minus = [] ∨ minus = ['-']) ∧ cs = minus ++ (sign cs).2 := by
  unfold sign
  split
  · exact ⟨['-'], .inr rfl, rfl⟩
  · exact ⟨[], .inl rfl, rfl⟩

/-- What is read as a number is a numeral. -/
theorem numeral_of_read? {l : Literal} (h : read? cs = some (l, rest)) :
    ∃ numeral, Numeral numeral ∧ cs = numeral ++ rest := by
  simp only [read?, Option.bind_eq_bind, Option.bind_eq_some_iff] at h
  obtain ⟨⟨whole, cs₁⟩, hwhole, ⟨places, cs₂⟩, hplaces, ⟨exponent, cs₃⟩, hexponent, he⟩ := h
  cases he
  obtain ⟨minus, hminus, hcs⟩ := exists_sign cs
  obtain ⟨w, hw, hcs₁⟩ := whole_of_wholePart? hwhole
  obtain ⟨p, hp, hcs₂⟩ := places_of_placesPart? hplaces
  obtain ⟨e, he, hcs₃⟩ := exponent_of_exponentPart? hexponent
  refine ⟨_, ⟨minus, w, p, e, hminus, hw, hp, he, rfl⟩, ?_⟩
  rw [List.append_assoc, List.append_assoc, List.append_assoc, ← hcs₃, ← hcs₂, ← hcs₁, ← hcs]

/-! A numeral is read as far as it goes. Each part is told by how it begins, so none is taken for
another. -/

theorem someDigits?_of_digits (h : Digits ds) (hrest : ∀ c ∈ rest.head?, c.isDigit = false) :
    someDigits? (ds ++ rest) = some (ds.map digitOf, rest) := by
  rw [someDigits?, digits_append h.2 hrest]
  split
  · next he => exact absurd (List.map_eq_nil_iff.mp (Prod.mk.inj he).1) h.1
  · rfl

theorem wholePart?_of_whole (h : Whole ds) (hrest : ∀ c ∈ rest.head?, c.isDigit = false) :
    wholePart? (ds ++ rest) = some (ds.map digitOf, rest) := by
  rw [wholePart?, digits_append h.1.2 hrest]
  split
  · next he => exact absurd (List.map_eq_nil_iff.mp (Prod.mk.inj he).1) h.1.1
  · next he =>
    obtain ⟨c, ds', rfl, hzero, hmore⟩ := List.map_eq_cons_iff.mp (Prod.mk.inj he).1
    have hc : c = '0' := (digitOf_eq_zero_iff (h.1.2 c List.mem_cons_self)).mp hzero
    subst hc
    obtain ⟨-, rfl⟩ := List.cons.inj (h.2 rfl)
    cases hmore
  · rfl

theorem placesPart?_of_places (h : Places ds)
    (hrest : ∀ c ∈ rest.head?, c.isDigit = false ∧ c ≠ '.') :
    ∃ found, placesPart? (ds ++ rest) = some (found, rest) := by
  rcases h with rfl | ⟨ds, hds, rfl⟩
  · exact ⟨none, placesPart?_none fun c hc => (hrest c hc).2⟩
  · refine ⟨some (ds.map digitOf), ?_⟩
    rw [List.cons_append, placesPart?, someDigits?_of_digits hds fun c hc => (hrest c hc).1]
    rfl

/-- A digit is no sign. -/
theorem exponentSign_of_digits (h : Digits ds) (rest : List Char) :
    exponentSign (ds ++ rest) = (false, ds ++ rest) := by
  obtain ⟨c, ds, rfl⟩ := List.exists_cons_of_ne_nil h.1
  have hc := h.2 c List.mem_cons_self
  unfold exponentSign
  split
  · next he =>
    rw [(List.cons.inj he).1] at hc
    cases hc
  · next he =>
    rw [(List.cons.inj he).1] at hc
    cases hc
  · rfl

theorem exponentPart?_of_exponent (h : Exponent ds) (hrest : Apart rest) :
    ∃ found, exponentPart? (ds ++ rest) = some (found, rest) := by
  rcases h with rfl | ⟨e, sign, ds, he, hsign, hds, rfl⟩
  · exact ⟨none, exponentPart?_none fun c hc => (hrest c hc).2.2⟩
  · have hletter : (decide (e = 'e') || decide (e = 'E')) = true := by
      rcases he with rfl | rfl <;> rfl
    obtain ⟨negative, hnegative⟩ : ∃ negative,
        exponentSign (sign ++ (ds ++ rest)) = (negative, ds ++ rest) := by
      rcases hsign with rfl | rfl | rfl
      · exact ⟨false, exponentSign_of_digits hds rest⟩
      · exact ⟨false, rfl⟩
      · exact ⟨true, rfl⟩
    refine ⟨some (negative, ds.map digitOf), ?_⟩
    rw [List.cons_append, List.append_assoc, exponentPart?, if_pos hletter, hnegative]
    show (someDigits? (ds ++ rest)).map _ = _
    rw [someDigits?_of_digits hds fun c hc => (hrest c hc).1]
    rfl

/-- A numeral begins with a minus sign or a digit. -/
theorem numeral_begins (h : Numeral cs) : ∃ c cs', cs = c :: cs' ∧ (c = '-' ∨ c.isDigit) := by
  obtain ⟨minus, whole, places, exponent, hminus, hwhole, -, -, rfl⟩ := h
  rcases hminus with rfl | rfl
  · obtain ⟨c, ds, rfl⟩ := List.exists_cons_of_ne_nil hwhole.1.1
    exact ⟨c, _, rfl, .inr (hwhole.1.2 c List.mem_cons_self)⟩
  · exact ⟨'-', _, rfl, .inl rfl⟩

/-- A numeral is read as a number, up to what does not go on with it. -/
theorem read?_of_numeral (h : Numeral cs) (hrest : Apart rest) :
    ∃ l, read? (cs ++ rest) = some (l, rest) := by
  obtain ⟨minus, whole, places, exponent, hminus, hwhole, hplaces, hexponent, rfl⟩ := h
  -- an exponent begins with its letter, and places begin with their point
  have hapart : ∀ c ∈ (exponent ++ rest).head?, c.isDigit = false ∧ c ≠ '.' := by
    intro c hc
    rcases hexponent with rfl | ⟨e, sign, ds, he, -, -, rfl⟩
    · exact ⟨(hrest c hc).1, (hrest c hc).2.1⟩
    · cases hc
      rcases he with rfl | rfl <;> decide
  have hdigits : ∀ c ∈ (places ++ (exponent ++ rest)).head?, c.isDigit = false := by
    intro c hc
    rcases hplaces with rfl | ⟨ds, -, rfl⟩
    · exact (hapart c hc).1
    · cases hc
      rfl
  obtain ⟨es, hes⟩ := exponentPart?_of_exponent hexponent hrest
  obtain ⟨ps, hps⟩ := placesPart?_of_places hplaces hapart
  have hws := wholePart?_of_whole hwhole hdigits
  have hsign : sign (minus ++ (whole ++ (places ++ (exponent ++ rest)))) =
      (decide (minus = ['-']), whole ++ (places ++ (exponent ++ rest))) := by
    rcases hminus with rfl | rfl
    · obtain ⟨c, ds, rfl⟩ := List.exists_cons_of_ne_nil hwhole.1.1
      have hc := hwhole.1.2 c List.mem_cons_self
      unfold sign
      split
      · next he =>
        rw [(List.cons.inj he).1] at hc
        cases hc
      · rfl
    · rfl
  refine ⟨⟨decide (minus = ['-']), whole.map digitOf, ps, es⟩, ?_⟩
  simp only [List.append_assoc, read?, hsign, hws, hps, hes, Option.bind_eq_bind,
    Option.bind_some, Option.pure_def]

end

end Literal

end NodeStack.Json
