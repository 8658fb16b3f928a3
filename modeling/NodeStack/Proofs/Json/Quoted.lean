import NodeStack.Json.Printer
import NodeStack.Json.Tree

/-!
# `NodeStack.Proofs.Json.Quoted`: a text in quotes reads back

Inside quotes a character stands for itself, or has an escape of one letter, or is named by its
16-bit unit. Only a quote that is not escaped ends the text, so whatever a text holds, nothing of it
is taken for what follows.

* `pieces?_escapeChar`: one character, escaped or not, is read as itself.
* `text?_quoted`: a whole text is, and the reader stops right behind its closing quote.
-/

set_option autoImplicit false

namespace NodeStack.Json.Tree

variable {c : Char} {rest : List Char}

/-! ### One character -/

theorem hex?_hexDigit {n : Nat} (h : n < 16) : hex? (hexDigit n) = some n := by
  revert n
  decide

/-- An escape of one letter. -/
theorem pieces?_letter {letter : Char} (h : escape? letter = some c) :
    pieces? ('\\' :: letter :: rest) =
      (pieces? rest).map fun found => (.char c :: found.1, found.2) := by
  have hu : letter ≠ 'u' := by
    rintro rfl
    cases h
  rw [pieces?.eq_4 letter rest fun _ _ _ _ _ he => absurd he hu, h]
  cases pieces? rest <;> rfl

/-- A control character, named by its number in four digits. -/
theorem pieces?_control (h : c.toNat < 0x20) :
    pieces? ('\\' :: 'u' :: '0' :: '0' ::
        hexDigit (c.toNat / 16) :: hexDigit (c.toNat % 16) :: rest) =
      (pieces? rest).map fun found => (.char c :: found.1, found.2) := by
  have hhigh : hex? (hexDigit (c.toNat / 16)) = some (c.toNat / 16) := hex?_hexDigit (by omega)
  have hlow : hex? (hexDigit (c.toNat % 16)) = some (c.toNat % 16) := hex?_hexDigit (by omega)
  have hunit : unit? '0' '0' (hexDigit (c.toNat / 16)) (hexDigit (c.toNat % 16)) =
      some c.toNat := by
    have hzero : hex? '0' = some 0 := by decide
    have hvalue : ((0 * 16 + 0) * 16 + c.toNat / 16) * 16 + c.toNat % 16 = c.toNat := by omega
    simp only [unit?, hzero, hhigh, hlow, Option.bind_eq_bind, Option.bind_some, Option.pure_def,
      hvalue]
  have hpiece : pieceOfUnit c.toNat = .char c := by
    have hlow : ¬0xD800 ≤ c.toNat := by omega
    simp [pieceOfUnit, hlow, Char.ofNat_toNat]
  rw [pieces?.eq_3, hunit]
  simp only [Option.bind_eq_bind, Option.bind_some, hpiece]
  cases pieces? rest <;> rfl

/-- A character that stands for itself. -/
theorem pieces?_plain (hquote : c ≠ '"') (hback : c ≠ '\\') (hcontrol : ¬c.toNat < 0x20) :
    pieces? (c :: rest) = (pieces? rest).map fun found => (.char c :: found.1, found.2) := by
  rw [pieces?.eq_5 c rest (fun h => hquote h) (fun _ _ _ _ _ h => absurd h hback)
    (fun _ _ h => absurd h hback)]
  simp only [hback, hcontrol, decide_false, Bool.or_self, Bool.false_eq_true, if_false]
  cases pieces? rest <;> rfl

/-- However a character is written, it is read as itself. -/
theorem pieces?_escapeChar (c : Char) (rest : List Char) :
    pieces? (escapeChar c ++ rest) =
      (pieces? rest).map fun found => (.char c :: found.1, found.2) := by
  -- seven characters have a letter, the other control characters a number
  unfold escapeChar
  split
  · next h => exact pieces?_letter (by subst h; rfl)
  split
  · next h => exact pieces?_letter (by subst h; rfl)
  split
  · next h => exact pieces?_letter (by subst h; rfl)
  split
  · next h => exact pieces?_letter (by subst h; rfl)
  split
  · next h => exact pieces?_letter (by subst h; rfl)
  split
  · next h => exact pieces?_letter (by rw [← Char.ofNat_toNat c, h]; rfl)
  split
  · next h => exact pieces?_letter (by rw [← Char.ofNat_toNat c, h]; rfl)
  split
  · next h => exact pieces?_control h
  · next hquote hback _ _ _ _ _ hcontrol => exact pieces?_plain hquote hback hcontrol

/-! ### A whole text -/

theorem pieces?_quoted (cs rest : List Char) :
    pieces? (cs.flatMap escapeChar ++ '"' :: rest) = some (cs.map .char, rest) := by
  induction cs with
  | nil => exact pieces?_close rest
  | cons c cs ih =>
    rw [List.flatMap_cons, List.append_assoc, pieces?_escapeChar, ih]
    rfl

theorem join?_map_char (cs : List Char) : join? (cs.map .char) = some cs := by
  induction cs with
  | nil => rfl
  | cons c cs ih => rw [List.map_cons, join?, ih, Option.map_some]

/-- What stands in quotes is read back, up to the closing quote. -/
theorem text?_quoted (cs rest : List Char) :
    text? (cs.flatMap escapeChar ++ '"' :: rest) = some (some (String.ofList cs), rest) := by
  simp only [text?, pieces?_quoted, Option.bind_eq_bind, Option.bind_some, join?_map_char,
    Option.map_some, Option.pure_def]

end NodeStack.Json.Tree
