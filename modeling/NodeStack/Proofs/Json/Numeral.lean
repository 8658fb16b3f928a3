import NodeStack.Json.Literal
import NodeStack.Json.Printer

/-!
# `NodeStack.Proofs.Json.Numeral`: whole numbers read back

A reader takes digits as long as they come, then looks for a point and an exponent. So a numeral is
read as it was written only if what follows it is none of these; behind a value there is a comma, a
bracket or nothing.

* `Number.fits`: the numbers that are whole and fit 64 bits, one way or the other.
* `Ends`: what may follow a value. `Apart`: what a numeral stops before.
* `read?_written`: a numeral is read as the literal of its digits, up to where it ends.
* `number?_ofInt`: this literal stands for the number that was written.
-/

set_option autoImplicit false

namespace NodeStack.Json

/-- A whole number, at least `-(2 ^ 63)` and below `2 ^ 64`. -/
def Number.fits : Number → Prop
  | .whole n => -(2 ^ 63) ≤ n ∧ n < 2 ^ 64
  | .double _ => False

/-- What may follow a value: nothing, or one of the marks that a value stands before. -/
def Ends (rest : List Char) : Prop :=
  ∀ c ∈ rest.head?, c = ',' ∨ c = ']' ∨ c = '\x7d'

theorem ends_nil : Ends [] := by
  rintro _ ⟨⟩

theorem ends_cons {c : Char} {rest : List Char} (h : c = ',' ∨ c = ']' ∨ c = '\x7d') :
    Ends (c :: rest) := by
  rintro _ ⟨⟩
  exact h

/-- What a numeral stops before: nothing, or a character that does not go on with it. -/
def Apart (rest : List Char) : Prop :=
  ∀ c ∈ rest.head?, c.isDigit = false ∧ c ≠ '.' ∧ c ≠ 'e' ∧ c ≠ 'E'

theorem Ends.apart {rest : List Char} (h : Ends rest) : Apart rest := by
  intro c hc
  rcases h c hc with rfl | rfl | rfl <;> decide

namespace Literal

/-- The digit that a character stands for. -/
def digitOf (c : Char) : Nat := c.toNat - '0'.toNat

/-- The literal of a whole number. -/
def ofInt (n : Int) : Literal where
  negative := n < 0
  whole := (Nat.toDigits 10 n.natAbs).map digitOf
  places := none
  exponent := none

variable {cs rest : List Char} {n : Nat}

/-! ### Digits -/

theorem digit?_eq {c : Char} (h : c.isDigit) : digit? c = some (digitOf c) := by
  have hrange : ('0' ≤ c && c ≤ '9') = true := h
  rw [digit?, if_pos hrange, digitOf]

theorem digit?_eq_none {c : Char} (h : c.isDigit = false) : digit? c = none := by
  have hrange : ('0' ≤ c && c ≤ '9') = false := h
  rw [digit?, hrange, if_neg Bool.false_ne_true]

/-- Digits are taken up to what is none. -/
theorem digits_append (hcs : ∀ c ∈ cs, c.isDigit)
    (hrest : ∀ c ∈ rest.head?, c.isDigit = false) :
    digits (cs ++ rest) = (cs.map digitOf, rest) := by
  induction cs with
  | nil =>
    cases rest with
    | nil => rfl
    | cons c rest => rw [List.nil_append, digits, digit?_eq_none (hrest c rfl), List.map_nil]
  | cons c cs ih =>
    rw [List.cons_append, digits, digit?_eq (hcs c List.mem_cons_self)]
    simp only [ih fun c hc => hcs c (List.mem_cons_of_mem _ hc), List.map_cons]

theorem isDigit_of_mem {c : Char} (h : c ∈ Nat.toDigits 10 n) : c.isDigit :=
  Nat.isDigit_of_mem_toDigits (by decide) (by decide) h

/-- A number that is not zero begins with another digit. -/
theorem head?_toDigits (h : 0 < n) : ∃ c, (Nat.toDigits 10 n).head? = some c ∧ digitOf c ≠ 0 := by
  induction n using Nat.strongRecOn with
  | ind n ih =>
    rw [Nat.toDigits_eq_if (by decide)]
    split
    · next hlt =>
      have hdigit : ∀ d < 10, 0 < d → digitOf (Nat.digitChar d) ≠ 0 := by decide
      exact ⟨_, rfl, hdigit n hlt h⟩
    · next hge =>
      -- the first digit is that of the number without its last one, which is no zero either
      obtain ⟨c, hc, hne⟩ := ih (n / 10) (by omega) (by omega)
      exact ⟨c, by rw [List.head?_append, hc, Option.some_or], hne⟩

/-- A zero that comes first is the only digit. -/
theorem wholePart?_toDigits (hrest : Apart rest) :
    wholePart? (Nat.toDigits 10 n ++ rest) = some ((Nat.toDigits 10 n).map digitOf, rest) := by
  rw [wholePart?, digits_append (fun _ => isDigit_of_mem) fun c hc => (hrest c hc).1]
  rcases Nat.eq_zero_or_pos n with rfl | hn
  · rfl
  · obtain ⟨c, hc, hne⟩ := head?_toDigits hn
    obtain ⟨cs, hcs⟩ := List.head?_eq_some_iff.mp hc
    rw [hcs, List.map_cons]
    split
    · next h => cases h
    · next h => exact absurd (List.cons.inj (Prod.mk.inj h).1).1 hne
    · rfl

/-! ### Numerals -/

/-- Without a point there are no places. -/
theorem placesPart?_none (h : ∀ c ∈ rest.head?, c ≠ '.') : placesPart? rest = some (none, rest) := by
  unfold placesPart?
  split
  · exact absurd rfl (h '.' rfl)
  · rfl

/-- Without its letter there is no exponent. -/
theorem exponentPart?_none (h : ∀ c ∈ rest.head?, c ≠ 'e' ∧ c ≠ 'E') :
    exponentPart? rest = some (none, rest) := by
  cases rest with
  | nil => rfl
  | cons c cs =>
    obtain ⟨he, hE⟩ := h c rfl
    simp [exponentPart?, he, hE]

theorem sign_toDigits (n : Nat) (rest : List Char) :
    sign (Nat.toDigits 10 n ++ rest) = (false, Nat.toDigits 10 n ++ rest) := by
  unfold sign
  split
  · next cs h =>
    -- no digit is a minus sign
    obtain ⟨d, ds, hds⟩ := List.exists_cons_of_ne_nil (Nat.toDigits_ne_nil (n := n) (b := 10))
    rw [hds, List.cons_append] at h
    have hdigit : d.isDigit := isDigit_of_mem (n := n) (by rw [hds]; exact List.mem_cons_self)
    rw [(List.cons.inj h).1] at hdigit
    cases hdigit
  · rfl

/-- A numeral is read as its digits, up to what may follow it. -/
theorem read?_written (n : Int) (hrest : Apart rest) :
    read? (writeNumber (.whole n) ++ rest) = some (ofInt n, rest) := by
  have hwhole := wholePart?_toDigits (n := n.natAbs) hrest
  have hplaces := placesPart?_none fun c hc => (hrest c hc).2.1
  have hexponent := exponentPart?_none fun c hc => (hrest c hc).2.2
  by_cases hn : n < 0
  · simp only [read?, writeNumber, if_pos hn, List.cons_append, sign, hwhole,
      hplaces, hexponent, Option.bind_eq_bind, Option.bind_some,
      Option.pure_def, ofInt, decide_eq_true hn]
  · simp only [read?, writeNumber, if_neg hn, sign_toDigits, hwhole,
      hplaces, hexponent, Option.bind_eq_bind, Option.bind_some,
      Option.pure_def, ofInt, decide_eq_false hn]

/-- The literal of a number that fits stands for it. -/
theorem number?_ofInt {n : Int} (h : (Number.whole n).fits) :
    (ofInt n).number? = some (.whole n) := by
  obtain ⟨hlow, hhigh⟩ := h
  have hvalue : ((Nat.toDigits 10 n.natAbs).map digitOf).foldl (fun acc d => 10 * acc + d) 0 =
      n.natAbs := by
    rw [List.foldl_map]
    exact Nat.ofDigitChars_toDigits (by decide) (by decide)
  have hwhole : (ofInt n).whole? = some n := by
    simp only [whole?, ofInt, Option.isSome_none, Bool.or_self, Bool.false_eq_true, if_false,
      hvalue, decide_eq_true_eq]
    by_cases hn : n < 0
    · have hfits : (decide (0 < n.natAbs) && decide (n.natAbs ≤ 2 ^ 63)) = true := by
        simp only [Bool.and_eq_true, decide_eq_true_eq]
        omega
      rw [if_pos hn, if_pos hfits, show -(n.natAbs : Int) = n by omega]
    · rw [if_neg hn, if_pos (by omega), show (n.natAbs : Int) = n by omega]
  rw [number?, hwhole]

end Literal

end NodeStack.Json
