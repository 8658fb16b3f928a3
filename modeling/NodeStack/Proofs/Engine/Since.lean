import NodeStack.Engine.Interface
import NodeStack.Proofs.Text.Digits
import NodeStack.Proofs.Time.Stamp

/-!
# `NodeStack.Proofs.Engine.Since`: the texts that say where a log begins

Four forms are tried one after the other. No text has two of them, so the order does not matter.

* `Begins`: the forms, each with the second it names.
* `second?_eq_some`: exactly the texts of these forms are read.
* `Begins.fits`: the second fits 64 bits.
* `engineSecond_eq`: how it is brought within the 31 bits that an engine takes.
* `log_begins`: all of it together, up to what an engine is asked.
-/

set_option autoImplicit false

namespace NodeStack.Engine

open Text (Fits Numeral)

/-- The units of age with their seconds. -/
def units : List (Char × Int) := [('s', 1), ('m', 60), ('h', 3600), ('d', 86400)]

/-- The texts that name a second, at the second `now`. -/
inductive Begins (now : Int) : List Char → Int → Prop where
  | always : Begins now [] 0
  | second {cs : List Char} {n : Int} (h : Numeral cs n) (hfits : Fits n) : Begins now cs n
  | stamp {cs : List Char} {t : Time.Stamp} (h : Time.Stamp.ofChars? cs = some t) :
    Begins now cs t.seconds
  | age {amount : List Char} {n : Int} {unit : Char} {scale : Int} (h : Numeral amount n)
    (hfits : Fits n) (hunit : (unit, scale) ∈ units) (hseconds : Fits (n * scale))
    (hbegins : Fits (now - n * scale)) : Begins now (amount ++ [unit]) (now - n * scale)

section
variable {now v : Int} {cs amount : List Char} {n scale : Int} {unit : Char}

/-! ### Ages -/

theorem unitSeconds?_eq_some : unitSeconds? unit = some scale ↔ (unit, scale) ∈ units := by
  simp only [units, List.mem_cons, List.not_mem_nil, or_false, Prod.mk.injEq]
  unfold unitSeconds?
  split <;> simp_all [eq_comm]

/-- The text is cut before its last character. -/
theorem age?_concat (amount : List Char) (unit : Char) :
    age? (amount ++ [unit]) = (Text.integer? amount).map fun n => (n, unit) := by
  simp [age?]

theorem age?_eq_some :
    age? cs = some (n, unit) ↔ ∃ amount, cs = amount ++ [unit] ∧ Numeral amount n ∧ Fits n := by
  rcases List.eq_nil_or_concat cs with rfl | ⟨front, last, rfl⟩
  · simp [age?]
  · rw [List.concat_eq_append, age?_concat, Option.map_eq_some_iff]
    constructor
    · rintro ⟨m, hm, he⟩
      obtain ⟨rfl, rfl⟩ := Prod.mk.inj he
      exact ⟨front, rfl, Text.integer?_eq_some.mp hm⟩
    · rintro ⟨amount, he, h⟩
      obtain ⟨rfl, hlast⟩ := List.append_inj' he rfl
      rw [(List.cons.inj hlast).1]
      exact ⟨n, Text.integer?_eq_some.mpr h, rfl⟩

theorem secondOfAge?_eq_some :
    secondOfAge? now cs = some v ↔
      ∃ amount n unit scale, cs = amount ++ [unit] ∧ Numeral amount n ∧ Fits n ∧
        (unit, scale) ∈ units ∧ Fits (n * scale) ∧ Fits (now - n * scale) ∧ v = now - n * scale := by
  simp only [secondOfAge?, Option.bind_eq_bind, Option.bind_eq_some_iff, Option.bind_some,
    Option.bind_none, Option.ite_none_right_eq_some, Option.some.injEq, Text.fits64_iff]
  constructor
  · rintro ⟨⟨n, unit⟩, hage, scale, hscale, hseconds, hbegins, rfl⟩
    obtain ⟨amount, rfl, hn, hfits⟩ := age?_eq_some.mp hage
    exact ⟨amount, n, unit, scale, rfl, hn, hfits, unitSeconds?_eq_some.mp hscale, hseconds,
      hbegins, rfl⟩
  · rintro ⟨amount, n, unit, scale, rfl, hn, hfits, hunit, hseconds, hbegins, rfl⟩
    exact ⟨(n, unit), age?_eq_some.mpr ⟨amount, rfl, hn, hfits⟩, scale,
      unitSeconds?_eq_some.mpr hunit, hseconds, hbegins, rfl⟩

/-! ### No text has two forms -/

/-- A unit is no part of a numeral, and no colon. -/
theorem of_mem_units (h : (unit, scale) ∈ units) :
    ¬(unit.isDigit ∨ unit = '+' ∨ unit = '-') ∧ unit ≠ ':' := by
  have hall : ∀ u ∈ units, ¬(u.1.isDigit ∨ u.1 = '+' ∨ u.1 = '-') ∧ u.1 ≠ ':' := by decide
  exact hall (unit, scale) h

theorem colon_not_mem (h : Numeral cs n) : ':' ∉ cs := by
  intro hmem
  have hchar := h.chars ':' hmem
  revert hchar
  decide

/-- A timestamp is no number. -/
theorem integer?_of_colon (h : ':' ∈ cs) : Text.integer? cs = none := by
  rw [Option.eq_none_iff_forall_ne_some]
  exact fun n hn => colon_not_mem (Text.integer?_eq_some.mp hn).1 h

/-- An age is neither a number nor a timestamp. -/
theorem not_read_of_age (h : Numeral amount n) (hunit : (unit, scale) ∈ units) :
    Text.integer? (amount ++ [unit]) = none ∧ Time.Stamp.ofChars? (amount ++ [unit]) = none := by
  obtain ⟨hnumeral, hcolon⟩ := of_mem_units hunit
  have hmem : unit ∈ amount ++ [unit] := List.mem_append_right _ (List.mem_singleton.mpr rfl)
  constructor <;> rw [Option.eq_none_iff_forall_ne_some]
  · exact fun m hm => hnumeral ((Text.integer?_eq_some.mp hm).1.chars unit hmem)
  · intro t ht
    rcases List.mem_append.mp (Time.Stamp.colon_mem_of_ofChars? ht) with hc | hc
    · exact colon_not_mem h hc
    · exact hcolon (List.mem_singleton.mp hc).symm

/-- Exactly the texts of these forms are read. -/
theorem second?_eq_some : second? now cs = some v ↔ Begins now cs v := by
  unfold second?
  constructor
  · intro h
    split at h
    · next hempty =>
      rw [List.isEmpty_iff.mp hempty, ← Option.some.inj h]
      exact .always
    · split at h
      · next n hn =>
        obtain ⟨hnumeral, hfits⟩ := Text.integer?_eq_some.mp hn
        rw [← Option.some.inj h]
        exact .second hnumeral hfits
      · split at h
        · next t ht =>
          rw [← Option.some.inj h]
          exact .stamp ht
        · obtain ⟨amount, n, unit, scale, rfl, hn, hfits, hunit, hseconds, hbegins, rfl⟩ :=
            secondOfAge?_eq_some.mp h
          exact .age hn hfits hunit hseconds hbegins
  · intro h
    cases h with
    | always => rfl
    | second h hfits =>
      rw [if_neg (by rw [List.isEmpty_iff]; exact h.ne_nil), Text.integer?_eq_some.mpr ⟨h, hfits⟩]
    | stamp h =>
      have hcolon := Time.Stamp.colon_mem_of_ofChars? h
      rw [if_neg (by rw [List.isEmpty_iff]; exact List.ne_nil_of_mem hcolon),
        integer?_of_colon hcolon, h]
    | age h hfits hunit hseconds hbegins =>
      obtain ⟨hinteger, hstamp⟩ := not_read_of_age h hunit
      rw [if_neg (by simp), hinteger, hstamp]
      exact secondOfAge?_eq_some.mpr
        ⟨_, _, _, _, rfl, h, hfits, hunit, hseconds, hbegins, rfl⟩

theorem Begins.fits (h : Begins now cs v) : Fits v := by
  cases h with
  | always => exact ⟨by decide, by decide⟩
  | second h hfits => exact hfits
  | stamp h =>
    have hbounds := Time.Stamp.seconds_bounds h
    unfold Fits
    omega
  | age h hfits hunit hseconds hbegins => exact hbegins

theorem since?_eq_ok {raw : String} :
    since? now raw = .ok v ↔ Begins now (Text.trim raw).toList v := by
  rw [← second?_eq_some]
  simp only [since?]
  cases second? now (Text.trim raw).toList <;> simp

theorem since?_eq_error {raw : String} {fault : Fault} :
    since? now raw = .error fault ↔
      fault = .invalidSince (Text.trim raw) ∧ ∀ v, ¬Begins now (Text.trim raw).toList v := by
  simp only [← second?_eq_some, since?]
  cases second? now (Text.trim raw).toList <;> simp [eq_comm]

/-! ### What an engine is asked -/

/-- The second that an engine takes: nothing is lost if it is written with 32 signed bits. -/
theorem engineSecond_eq (v : Int) :
    engineSecond v = (if v < 0 then 0 else if 2 ^ 31 - 1 < v then 2 ^ 31 - 1 else v) ∧
    (Int32.ofInt (engineSecond v)).toInt = engineSecond v := by
  have hclamp : engineSecond v =
      if v < 0 then 0 else if 2 ^ 31 - 1 < v then 2 ^ 31 - 1 else v := by
    unfold engineSecond lastSecond
    split
    · omega
    · split <;> omega
  refine ⟨hclamp, Int32.toInt_ofInt_of_le ?_ ?_⟩ <;> rw [hclamp] <;> split
  all_goals first | decide | split
  all_goals omega

variable {raw : String} {range : LogRange}

theorem logs_run_of_ok (hrange : range.since = some raw) (h : since? now raw = .ok v)
    (name : String) (answer : (c : Call) → Answer) :
    ((logs now name range).run answer).2 =
      [.logs name (engineSecond v) (range.tail.getD "all") range.follow] := by
  simp only [logs, hrange, Option.map_some, Option.getD_some, h]
  rfl

theorem logs_run_of_error {fault : Fault} (hrange : range.since = some raw)
    (h : since? now raw = .error fault) (name : String) (answer : (c : Call) → Answer) :
    (logs now name range).run answer = (.error fault, []) := by
  simp only [logs, hrange, Option.map_some, Option.getD_some, h]
  rfl

end

/-- The beginning of a log, from its text to what an engine is asked. Exactly the texts of the four
forms are read, each as the second it names, and that second fits 64 bits; every other text is the
fault that says so, and nothing is asked. An age is cut where its last character begins, however
many bytes this one has. An engine is asked from the nearest second that 31 bits hold. -/
theorem log_begins (now : Int) (raw : String) :
    (∀ v, since? now raw = .ok v ↔ Begins now (Text.trim raw).toList v) ∧
    (∀ fault, since? now raw = .error fault ↔
      fault = .invalidSince (Text.trim raw) ∧ ∀ v, ¬Begins now (Text.trim raw).toList v) ∧
    (∀ v, since? now raw = .ok v → Fits v) ∧
    (∀ (amount : List Char) (unit : Char),
      age? (amount ++ [unit]) = (Text.integer? amount).map (fun n => (n, unit)) ∧
      (String.ofList (amount ++ [unit])).utf8ByteSize - unit.utf8Size =
        (String.ofList amount).utf8ByteSize) ∧
    ∀ (name : String) (range : LogRange) (answer : (c : Call) → Answer), range.since = some raw →
      (∀ v, since? now raw = .ok v → ∃ second : Int,
        ((logs now name range).run answer).2 =
          [.logs name second (range.tail.getD "all") range.follow] ∧
        second = (if v < 0 then 0 else if 2 ^ 31 - 1 < v then 2 ^ 31 - 1 else v) ∧
        (Int32.ofInt second).toInt = second) ∧
      ∀ fault, since? now raw = .error fault →
        (logs now name range).run answer = (.error fault, []) := by
  refine ⟨fun v => since?_eq_ok, fun fault => since?_eq_error, fun v h => (since?_eq_ok.mp h).fits,
    fun amount unit => ⟨age?_concat amount unit, ?_⟩, fun name range answer hrange =>
    ⟨fun v h => ⟨engineSecond v, logs_run_of_ok hrange h name answer, engineSecond_eq v⟩,
      fun fault h => logs_run_of_error hrange h name answer⟩⟩
  simp [String.ofList_append]

/-- Ten minutes before the hundredth second is before the first one that an engine takes. -/
theorem log_begins_age :
    since? 100 " 10m " = .ok (-500) ∧ Fits (-500) ∧
    ((logs 100 "lnd" ⟨some " 10m ", none, true⟩).run fun _ => ⟨200, []⟩).2 =
      [.logs "lnd" 0 "all" true] ∧
    since? 100 "9223372036854775807h" = .error (.invalidSince "9223372036854775807h") := by
  have hage : since? 100 " 10m " = .ok (-500) := by rfl
  obtain ⟨-, -, hfits, -, hasked⟩ := log_begins 100 " 10m "
  obtain ⟨hok, -⟩ := hasked "lnd" ⟨some " 10m ", none, true⟩ (fun _ => ⟨200, []⟩) rfl
  obtain ⟨second, hcalls, hsecond, -⟩ := hok (-500) hage
  have hzero : second = 0 := hsecond
  rw [hzero] at hcalls
  exact ⟨hage, hfits (-500) hage, hcalls, by rfl⟩

end NodeStack.Engine
