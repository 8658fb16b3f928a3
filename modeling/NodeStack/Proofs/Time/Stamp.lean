import NodeStack.Time.Stamp

/-!
# `NodeStack.Proofs.Time.Stamp`: what a text must hold to be a timestamp

* `colon_mem_of_ofChars?`: a timestamp has a colon in it, so it is never a number.
* `seconds_bounds`: a year has four digits, so the seconds of a timestamp have at most twelve.
-/

set_option autoImplicit false

namespace NodeStack.Time

/-! ### Days -/

/-- The days of a date in the first ten thousand years. -/
theorem daysOfDate_bounds {d : Date} (hvalid : d.valid = true) (hlow : 0 ≤ d.year)
    (hhigh : d.year ≤ 9999) : -800000 ≤ daysOfDate d ∧ daysOfDate d ≤ 3000000 := by
  obtain ⟨year, month, day⟩ := d
  simp only [Date.valid, Bool.and_eq_true, decide_eq_true_eq] at hvalid
  obtain ⟨⟨⟨hmonth1, hmonth12⟩, hday1⟩, hday⟩ := hvalid
  have hday31 : day ≤ 31 := by
    refine Nat.le_trans hday ?_
    unfold daysInMonth
    split
    · split <;> decide
    · split <;> decide
  simp only at hlow hhigh
  simp only [daysOfDate, Int.fdiv_eq_ediv_of_nonneg _ (show (0 : Int) ≤ 400 by decide)]
  by_cases h : month ≤ 2
  · simp only [if_pos h]
    omega
  · simp only [if_neg h]
    omega

namespace Stamp

section
variable {cs rest : List Char} {n acc value : Nat}

/-! ### What a reader leaves is the end of what it was given -/

theorem digits?_suffix (h : digits? n acc cs = some (value, rest)) : rest <:+ cs := by
  induction n generalizing acc cs with
  | zero =>
    rw [digits?] at h
    obtain rfl := (Prod.mk.inj (Option.some.inj h)).2
    exact List.suffix_refl cs
  | succ n ih =>
    cases cs with
    | nil => cases h
    | cons c cs =>
      rw [digits?] at h
      split at h
      · exact (ih h).trans (List.suffix_cons c cs)
      · cases h

theorem digits?_lt (h : digits? n acc cs = some (value, rest)) : value < (acc + 1) * 10 ^ n := by
  induction n generalizing acc cs with
  | zero =>
    rw [digits?] at h
    rw [(Prod.mk.inj (Option.some.inj h)).1]
    omega
  | succ n ih =>
    cases cs with
    | nil => cases h
    | cons c cs =>
      rw [digits?] at h
      split at h
      · next hc =>
        have hdigit : c.toNat - '0'.toNat ≤ 9 := by
          have h9 : c.toNat ≤ 57 := (Char.isDigit_iff_toNat.mp hc).2
          have h0 : '0'.toNat = 48 := rfl
          omega
        calc value < (10 * acc + (c.toNat - '0'.toNat) + 1) * 10 ^ n := ih h
          _ ≤ ((acc + 1) * 10) * 10 ^ n := Nat.mul_le_mul_right _ (by omega)
          _ = (acc + 1) * 10 ^ (n + 1) := by rw [Nat.pow_succ', Nat.mul_assoc]
      · cases h

theorem expect?_eq_some {c : Char} : expect? c cs = some rest ↔ cs = c :: rest := by
  cases cs with
  | nil => simp [expect?]
  | cons d cs =>
    by_cases h : c = d <;> simp [expect?, h, eq_comm]

theorem betweenDateAndTime?_suffix (h : betweenDateAndTime? cs = some rest) : rest <:+ cs := by
  cases cs with
  | nil => cases h
  | cons c cs =>
    rw [betweenDateAndTime?] at h
    split at h
    · rw [← Option.some.inj h]
      exact List.suffix_cons c cs
    · cases h

theorem expect?_suffix {c : Char} (h : expect? c cs = some rest) : rest <:+ cs := by
  rw [expect?_eq_some.mp h]
  exact List.suffix_cons c rest

theorem offsetSeconds?_bounds {seconds : Int} (h : offsetSeconds? cs = some (seconds, rest)) :
    0 ≤ seconds ∧ seconds < 86400 := by
  simp only [offsetSeconds?, Option.bind_eq_bind, Option.bind_eq_some_iff] at h
  obtain ⟨⟨hours, c1⟩, -, c2, -, ⟨minutes, c3⟩, -, h⟩ := h
  split at h
  · next hlt =>
    simp only [Bool.and_eq_true, decide_eq_true_eq] at hlt
    rw [← (Prod.mk.inj (Option.some.inj h)).1]
    omega
  · cases h

/-- An offset is less than a day. -/
theorem offset?_bounds {offset : Int} (h : offset? cs = some (offset, rest)) :
    -86400 < offset ∧ offset < 86400 := by
  cases cs with
  | nil => cases h
  | cons c cs =>
    rw [offset?] at h
    split at h
    · rw [← (Prod.mk.inj (Option.some.inj h)).1]
      omega
    · split at h
      · have hbounds := offsetSeconds?_bounds h
        omega
      · split at h
        · obtain ⟨⟨seconds, left⟩, hseconds, he⟩ := Option.map_eq_some_iff.mp h
          have hbounds := offsetSeconds?_bounds hseconds
          rw [← (Prod.mk.inj he).1]
          omega
        · cases h

/-! ### Timestamps -/

variable {t : Stamp}

/-- There is a colon between the hours and the minutes. -/
theorem colon_mem_of_ofChars? (h : ofChars? cs = some t) : ':' ∈ cs := by
  unfold ofChars? at h
  obtain ⟨⟨year, c1⟩, hyear, h⟩ := Option.bind_eq_some_iff.mp h
  obtain ⟨c2, he1, h⟩ := Option.bind_eq_some_iff.mp h
  obtain ⟨⟨month, c3⟩, hmonth, h⟩ := Option.bind_eq_some_iff.mp h
  obtain ⟨c4, he2, h⟩ := Option.bind_eq_some_iff.mp h
  obtain ⟨⟨day, c5⟩, hday, h⟩ := Option.bind_eq_some_iff.mp h
  obtain ⟨c6, hbetween, h⟩ := Option.bind_eq_some_iff.mp h
  obtain ⟨⟨hour, c7⟩, hhour, h⟩ := Option.bind_eq_some_iff.mp h
  obtain ⟨c8, he3, -⟩ := Option.bind_eq_some_iff.mp h
  have hdate : c5 <:+ cs :=
    ((((digits?_suffix hday).trans (expect?_suffix he2)).trans (digits?_suffix hmonth)).trans
      (expect?_suffix he1)).trans (digits?_suffix hyear)
  have htime : c7 <:+ c5 := (digits?_suffix hhour).trans (betweenDateAndTime?_suffix hbetween)
  have hcolon : c7 = ':' :: c8 := expect?_eq_some.mp he3
  refine (htime.trans hdate).subset ?_
  rw [hcolon]
  exact List.mem_cons_self

theorem seconds_bounds (h : ofChars? cs = some t) : -(2 ^ 40) ≤ t.seconds ∧ t.seconds ≤ 2 ^ 40 := by
  unfold ofChars? at h
  obtain ⟨⟨year, c1⟩, hyear, h⟩ := Option.bind_eq_some_iff.mp h
  obtain ⟨c2, -, h⟩ := Option.bind_eq_some_iff.mp h
  obtain ⟨⟨month, c3⟩, -, h⟩ := Option.bind_eq_some_iff.mp h
  obtain ⟨c4, -, h⟩ := Option.bind_eq_some_iff.mp h
  obtain ⟨⟨day, c5⟩, -, h⟩ := Option.bind_eq_some_iff.mp h
  obtain ⟨c6, -, h⟩ := Option.bind_eq_some_iff.mp h
  obtain ⟨⟨hour, c7⟩, -, h⟩ := Option.bind_eq_some_iff.mp h
  obtain ⟨c8, -, h⟩ := Option.bind_eq_some_iff.mp h
  obtain ⟨⟨minute, c9⟩, -, h⟩ := Option.bind_eq_some_iff.mp h
  obtain ⟨c10, -, h⟩ := Option.bind_eq_some_iff.mp h
  obtain ⟨⟨second, c11⟩, -, h⟩ := Option.bind_eq_some_iff.mp h
  obtain ⟨⟨nanos, c12⟩, -, h⟩ := Option.bind_eq_some_iff.mp h
  obtain ⟨⟨offset, c13⟩, hoffset, h⟩ := Option.bind_eq_some_iff.mp h
  dsimp only at h
  split at h
  · next hcond =>
    simp only [Bool.and_eq_true, decide_eq_true_eq] at hcond
    obtain ⟨⟨⟨⟨-, hvalid⟩, hhour⟩, hminute⟩, hsecond⟩ := hcond
    have hyear' : year < 10000 := digits?_lt hyear
    have hdays := daysOfDate_bounds hvalid (by simp) (by simp only; omega)
    have hoffset' := offset?_bounds hoffset
    rw [← Option.some.inj h]
    simp only
    split <;> omega
  · cases h

end

end Stamp

end NodeStack.Time
