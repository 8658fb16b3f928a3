import NodeStack.Proofs.Json.Written

/-!
# `NodeStack.Proofs.Json.OneLine`: what is written for a value is one line

A line feed in a text is written as an escape, and no other part of a value holds one. So values can
be told apart by the line feeds between them.

* `newline_not_mem_write`: no line feed is written for a canonical value.
* `newline_not_mem_record`: nor for a record of canonical values.
-/

set_option autoImplicit false

namespace NodeStack.Json

theorem hexDigit_ne_newline {n : Nat} (h : n < 16) : hexDigit n ≠ '\n' := by
  revert n
  decide

theorem newline_not_mem_escapeChar (c : Char) : '\n' ∉ escapeChar c := by
  unfold escapeChar
  split
  · decide
  split
  · decide
  split
  · decide
  split
  · decide
  split
  · decide
  split
  · decide
  split
  · decide
  split
  · next hcontrol =>
    -- a control character is named by two digits
    have hhigh : '\n' ≠ hexDigit (c.toNat / 16) := (hexDigit_ne_newline (by omega)).symm
    have hlow : '\n' ≠ hexDigit (c.toNat % 16) := (hexDigit_ne_newline (by omega)).symm
    simp [hhigh, hlow]
  · next _ _ hc _ _ _ _ _ => simpa using Ne.symm hc

theorem newline_not_mem_writeText (cs : List Char) : '\n' ∉ writeText cs := by
  simp [writeText, newline_not_mem_escapeChar]

theorem newline_not_mem_writeNumber {n : Number} (h : n.fits) : '\n' ∉ writeNumber n := by
  cases n with
  | double bits => exact h.elim
  | whole n =>
    have hdigits : '\n' ∉ Nat.toDigits 10 n.natAbs := by
      intro hmem
      have hdigit := Literal.isDigit_of_mem hmem
      revert hdigit
      decide
    rw [writeNumber]
    split
    · simpa using hdigits
    · exact hdigits

theorem newline_not_mem_writeItems {items : List Json} (h : ∀ v ∈ items, '\n' ∉ write v) :
    '\n' ∉ writeItems items := by
  induction items with
  | nil => exact List.not_mem_nil
  | cons v items ih =>
    rw [List.forall_mem_cons] at h
    cases items with
    | nil => exact h.1
    | cons w items => simpa [writeItems, h.1] using ih h.2

theorem newline_not_mem_writeMembers {members : List (String × Json)}
    (h : ∀ m ∈ members, '\n' ∉ write m.2) : '\n' ∉ writeMembers members := by
  induction members with
  | nil => exact List.not_mem_nil
  | cons m members ih =>
    obtain ⟨name, v⟩ := m
    rw [List.forall_mem_cons] at h
    have hname := newline_not_mem_writeText name.toList
    cases members with
    | nil => simpa [writeMembers, hname] using h.1
    | cons n members => simpa [writeMembers, hname, h.1] using ih h.2

/-- What is written for a value has no line feed in it. -/
theorem newline_not_mem_write {v : Json} (h : Canonical v) : '\n' ∉ write v := by
  induction h with
  | null => decide
  | bool b => cases b <;> decide
  | num fits => exact newline_not_mem_writeNumber fits
  | str s => exact newline_not_mem_writeText _
  | arr _ ih => simpa [write] using newline_not_mem_writeItems ih
  | obj _ _ ih => simpa [write] using newline_not_mem_writeMembers ih

/-- Nor has what is written for a record. -/
theorem newline_not_mem_record {members : List (String × Json)}
    (h : ∀ m ∈ members, Canonical m.2) :
    '\n' ∉ '\x7b' :: (writeMembers members ++ ['\x7d']) := by
  simpa using newline_not_mem_writeMembers fun m hm => newline_not_mem_write (h m hm)

end NodeStack.Json
