import Mathlib.Data.Nat.Digits.Defs
import NodeStack.Proofs.Text.Split
import NodeStack.Service.Ethereum.Quantity

/-!
# `NodeStack.Proofs.Service.Quantity`: the quantities that are read

A quantity is written with hexadecimal digits behind an optional mark. `hexDigits` lists the digits
in the order of their values, so that a digit is worth its place there, and digits make a number by
their own places (`Hexadecimal`). A reader gathers the number from left to right instead.

* `digit?_sixteen`: a digit is read as what it is worth, and nothing else is read.
* `digitsFrom_sixteen`, `digitsValue?_sixteen`: what is gathered from left to right is the number
  that the digits make by their places.
* `dropMark_marked`, `dropMark_unmarked`: the mark is dropped, and nothing is taken for a mark that
  is none, because no digit is an `x`.
* `quantity?_eq_some_iff`: what is read are the quantities, and texts with a plus sign before the
  digits of one. `signed_quantity_read` is such a text, which is no quantity.
-/

set_option autoImplicit false

namespace NodeStack

namespace Text

/-! ### Hexadecimal numbers -/

/-- The hexadecimal digits in the order of their values. -/
def hexDigits : List Char := "0123456789abcdef".toList

/-- A hexadecimal digit, in either case. -/
def IsHexDigit (c : Char) : Prop := c.toLower ∈ hexDigits

instance (c : Char) : Decidable (IsHexDigit c) :=
  inferInstanceAs (Decidable (c.toLower ∈ hexDigits))

/-- What a hexadecimal digit is worth. -/
def hexWorth (c : Char) : Nat := hexDigits.idxOf c.toLower

/-- The number that some digits make by their places, the last of them the place of the units. -/
def hexValue (ds : List Char) : Nat := Nat.ofDigits 16 (ds.map hexWorth).reverse

/-- One or more hexadecimal digits, which make the number `n`. -/
structure Hexadecimal (ds : List Char) (n : Nat) : Prop where
  ne_nil : ds ≠ []
  digits : ∀ c ∈ ds, IsHexDigit c
  value : hexValue ds = n

theorem digit?_of_ascii : ∀ code < 128, digit? 16 (Char.ofNat code) =
    if IsHexDigit (Char.ofNat code) then some (hexWorth (Char.ofNat code)) else none := by
  decide

/-- A digit is read as what it is worth, and nothing else is read. -/
theorem digit?_sixteen (c : Char) :
    digit? 16 c = if IsHexDigit c then some (hexWorth c) else none := by
  by_cases hascii : c.toNat < 128
  · have h := digit?_of_ascii c.toNat hascii
    rwa [Char.ofNat_toNat] at h
  · -- beyond the first 128 characters there are no digits, and no letter has one in the other case
    have hout : ∀ a b : Char, b.toNat < 128 → (a ≤ c && c ≤ b) = false := by
      intro a b hb
      have hlt : ¬c ≤ b := fun hle => hascii (Nat.lt_of_le_of_lt hle hb)
      simp [hlt]
    have hlower : c.toLower = c := by
      unfold Char.toLower
      rw [dif_neg]
      rintro ⟨-, hle⟩
      exact hascii (Nat.lt_of_le_of_lt hle (by decide))
    have hno : ¬IsHexDigit c := by
      intro h
      rw [IsHexDigit, hlower] at h
      have hall : hexDigits.all (fun d => d.toNat < 128) = true := by decide
      exact hascii (of_decide_eq_true (List.all_eq_true.mp hall c h))
    rw [if_neg hno]
    simp [digit?, hout _ '9' (by decide), hout _ 'z' (by decide), hout _ 'Z' (by decide)]

theorem hexValue_cons (c : Char) (cs : List Char) :
    hexValue (c :: cs) = hexWorth c * 16 ^ cs.length + hexValue cs := by
  rw [hexValue, List.map_cons, List.reverse_cons, Nat.ofDigits_append, Nat.ofDigits_singleton,
    List.length_reverse, List.length_map, Nat.mul_comm, Nat.add_comm]
  rfl

section
variable {cs : List Char} {n : Nat}

/-- Digits behind others of the value `acc` move that value up by their number of places. -/
theorem digitsFrom_sixteen {acc : Nat} :
    digitsFrom 16 acc cs = some n ↔
      (∀ c ∈ cs, IsHexDigit c) ∧ acc * 16 ^ cs.length + hexValue cs = n := by
  induction cs generalizing acc with
  | nil => simp [digitsFrom, hexValue]
  | cons c cs ih =>
    rw [digitsFrom, digit?_sixteen, List.forall_mem_cons]
    by_cases h : IsHexDigit c
    · have hshift : (16 * acc + hexWorth c) * 16 ^ cs.length + hexValue cs =
          acc * 16 ^ (c :: cs).length + hexValue (c :: cs) := by
        rw [hexValue_cons, List.length_cons, Nat.pow_succ, Nat.add_mul, Nat.add_assoc,
          Nat.mul_comm 16 acc, Nat.mul_assoc, Nat.mul_comm 16]
      rw [if_pos h, Option.bind_some, ih, hshift]
      simp [h]
    · simp [h]

/-- What is read are the hexadecimal numbers. -/
theorem digitsValue?_sixteen : digitsValue? 16 cs = some n ↔ Hexadecimal cs n := by
  cases cs with
  | nil =>
    refine iff_of_false (by simp [digitsValue?]) fun h => ?_
    exact h.ne_nil rfl
  | cons c cs =>
    rw [digitsValue?, List.isEmpty_cons, if_neg Bool.false_ne_true, digitsFrom_sixteen,
      Nat.zero_mul, Nat.zero_add]
    exact ⟨fun h => ⟨List.cons_ne_nil _ _, h.1, h.2⟩, fun h => ⟨h.digits, h.value⟩⟩

/-- A sign is no digit. -/
theorem not_hexadecimal_plus : ¬Hexadecimal ('+' :: cs) n := by
  intro h
  have hdigit : ¬IsHexDigit '+' := by decide
  exact hdigit (h.digits '+' List.mem_cons_self)

/-- What is read as a natural number: digits, with or without a plus sign. -/
theorem natural?_sixteen {bound : Nat} :
    natural? 16 bound cs = some n ↔
      n < bound ∧ ∃ sign ds, (sign = [] ∨ sign = ['+']) ∧ cs = sign ++ ds ∧ Hexadecimal ds n := by
  rw [natural?, Option.filter_eq_some_iff, decide_eq_true_eq, digitsValue?_sixteen, and_comm]
  refine and_congr_right fun _ => ⟨fun h => ?_, ?_⟩
  · unfold dropPlus at h
    split at h
    · next ds => exact ⟨['+'], ds, .inr rfl, rfl, h⟩
    · exact ⟨[], cs, .inl rfl, rfl, h⟩
  · rintro ⟨sign, ds, hsign, rfl, h⟩
    rcases hsign with rfl | rfl
    · rw [List.nil_append]
      unfold dropPlus
      split
      · exact absurd h not_hexadecimal_plus
      · exact h
    · exact h

end

end Text

namespace Service.Ethereum

open Text (Hexadecimal IsHexDigit)

/-! ### Quantities -/

/-- A text of an optional mark, the given sign and hexadecimal digits, and nothing else, whose value
`n` fits 64 bits. -/
def Writes (sign : List Char) (v : Json) (n : Nat) : Prop :=
  n < 2 ^ 64 ∧ ∃ s mark ds, v = .str s ∧ (mark = [] ∨ mark = ['0', 'x']) ∧
    s.toList = mark ++ sign ++ ds ∧ Hexadecimal ds n

/-- A quantity: hexadecimal digits, behind a mark or not. -/
abbrev IsQuantity (v : Json) (n : Nat) : Prop := Writes [] v n

theorem dropMark_marked (cs : List Char) : dropMark ('0' :: 'x' :: cs) = cs := rfl

/-- Either the text has the mark, or nothing is dropped. -/
theorem dropMark_cases (cs : List Char) :
    cs = ['0', 'x'] ++ dropMark cs ∨ dropMark cs = cs := by
  unfold dropMark
  cases h : Text.after? ['0', 'x'] cs with
  | none => exact .inr rfl
  | some rest => exact .inl (Text.after?_eq_some.mp h)

theorem dropMark_unmarked {cs : List Char} (h : 'x' ∉ cs) : dropMark cs = cs := by
  rcases dropMark_cases cs with hmark | hsame
  · refine absurd ?_ h
    rw [hmark]
    exact List.mem_cons_of_mem _ List.mem_cons_self
  · exact hsame

/-- Neither the digits of a quantity nor a sign before them hold the letter of the mark. -/
theorem x_not_mem {sign ds : List Char} {n : Nat} (hsign : sign = [] ∨ sign = ['+'])
    (h : Hexadecimal ds n) : 'x' ∉ sign ++ ds := by
  have hx : ¬IsHexDigit 'x' := by decide
  rw [List.mem_append]
  rintro (hmem | hmem)
  · rcases hsign with rfl | rfl <;> simp at hmem
  · exact hx (h.digits 'x' hmem)

/-- What is read as a quantity, sign and all. -/
theorem quantity?_eq_some {v : Json} {n : Nat} :
    quantity? v = some n ↔ ∃ sign, (sign = [] ∨ sign = ['+']) ∧ Writes sign v n := by
  constructor
  · intro h
    obtain ⟨s, hs, hread⟩ := Option.bind_eq_some_iff.mp h
    obtain ⟨hn, sign, ds, hsign, hcs, hds⟩ := Text.natural?_sixteen.mp hread
    have hv : v = .str s := by
      cases v <;> cases hs
      rfl
    rcases dropMark_cases s.toList with hmark | hsame
    · refine ⟨sign, hsign, hn, s, ['0', 'x'], ds, hv, .inr rfl, ?_, hds⟩
      rw [hmark, hcs, List.append_assoc]
    · refine ⟨sign, hsign, hn, s, [], ds, hv, .inl rfl, ?_, hds⟩
      rw [← hsame, hcs, List.nil_append]
  · rintro ⟨sign, hsign, hn, s, mark, ds, rfl, hmark, hcs, hds⟩
    show Text.natural? 16 (2 ^ 64) (dropMark s.toList) = some n
    have hdrop : dropMark s.toList = sign ++ ds := by
      rw [hcs, List.append_assoc]
      rcases hmark with rfl | rfl
      · have hx := x_not_mem hsign hds
        exact dropMark_unmarked hx
      · exact dropMark_marked (sign ++ ds)
    rw [hdrop]
    exact Text.natural?_sixteen.mpr ⟨hn, sign, ds, hsign, rfl, hds⟩

/-- What is read as a quantity, and as which number: the quantities, and texts that would be one
without the plus sign before their digits. No other value is read, so none that is no text, is too
large, or has anything else before, among or behind the digits. -/
theorem quantity?_eq_some_iff (v : Json) (n : Nat) :
    quantity? v = some n ↔ IsQuantity v n ∨ Writes ['+'] v n := by
  rw [quantity?_eq_some]
  simp only [or_and_right, exists_or, exists_eq_left]

/-- A text that is read, though for its sign it is no quantity. -/
theorem signed_quantity_read :
    quantity? (.str "0x+ff") = some 255 ∧ ∀ n, ¬IsQuantity (.str "0x+ff") n := by
  refine ⟨by decide, ?_⟩
  rintro n ⟨-, s, mark, ds, hs, hmark, hcs, hds⟩
  obtain rfl : "0x+ff" = s := Json.str.inj hs
  have hplus : ¬IsHexDigit '+' := by decide
  have hx : ¬IsHexDigit 'x' := by decide
  rw [List.append_nil] at hcs
  -- with the mark the sign is among the digits, and without it the mark is
  rcases hmark with rfl | rfl
  · exact hx (hds.digits 'x' (by rw [← show _ = ds from hcs]; decide))
  · obtain ⟨-, hcs⟩ := List.cons.inj hcs
    obtain ⟨-, hcs⟩ := List.cons.inj hcs
    exact hplus (hds.digits '+' (by rw [← show _ = ds from hcs]; decide))

end Service.Ethereum

end NodeStack
