import NodeStack.Text.Utf8

/-!
# `NodeStack.Proofs.Text.Utf8`: bytes that are decoded in pieces

A text that comes in pieces can be decoded at once, or each piece on its own. The two agree exactly
when no cut goes through a character.

* `Long`: the sequences of bytes that are one character of several bytes (`long_encodeChar`,
  `Long.exists_encodeChar`).
* `Severs`: a cut goes through a character if the bytes before it end with the beginning of one, and
  the first byte after it goes on with that. This is about `encodeChar` alone.
* `severs_iff`: the state of the decoder at the cut tells. A state says that a character is begun
  (`tracks_run`), and the beginning of a character brings the decoder there from any state
  (`admits_of_long`).
* `decodeLossy_append`: at any other cut the pieces can be decoded on their own.
* `countP_append_lt`: a cut through a character yields replacement characters that the whole does not
  have, more of them than it loses in characters.
* `decodeLossy_flatten`, `countP_flatten_lt`: the same of any number of cuts.
* `intact_map_encode`: no cut between whole characters goes through one.
-/

set_option autoImplicit false

namespace NodeStack.Text.Utf8

/-! ### Runs of the decoder -/

theorem run_cons (s : State) (x : UInt8) (bytes : List UInt8) :
    run s (x :: bytes) =
      ((run (step s x).1 bytes).1, (step s x).2 ++ (run (step s x).1 bytes).2) := rfl

theorem run_append (s : State) (a b : List UInt8) :
    run s (a ++ b) = ((run (run s a).1 b).1, (run s a).2 ++ (run (run s a).1 b).2) := by
  induction a generalizing s with
  | nil => rfl
  | cons x a ih => simp only [List.cons_append, run_cons, ih, List.append_assoc]

/-- The characters of some bytes, read from a state on to the end. -/
def readFrom (s : State) (bytes : List UInt8) : List Char :=
  (run s bytes).2 ++ finish (run s bytes).1

theorem readFrom_cons (s : State) (x : UInt8) (bytes : List UInt8) :
    readFrom s (x :: bytes) = (step s x).2 ++ readFrom (step s x).1 bytes := by
  simp only [readFrom, run_cons, List.append_assoc]

theorem decodeLossy_eq (bytes : List UInt8) : decodeLossy bytes = readFrom none bytes := rfl

theorem decodeLossy_append_eq (a b : List UInt8) :
    decodeLossy (a ++ b) = (run none a).2 ++ readFrom (run none a).1 b := by
  simp only [decodeLossy_eq, readFrom, run_append, List.append_assoc]

/-! ### Characters of several bytes -/

/-- A byte that a character goes on with. -/
def IsTail (x : UInt8) : Prop := 0x80 ≤ x.toNat ∧ x.toNat ≤ 0xBF

/-- The bytes of a character of several bytes. The second byte is bounded further where the
character would do with fewer bytes, be a surrogate, or be too large. -/
inductive Long : List UInt8 → Prop where
  | two {b x : UInt8} : 0xC2 ≤ b.toNat → b.toNat < 0xE0 → IsTail x → Long [b, x]
  | three {b x y : UInt8} : 0xE0 ≤ b.toNat → b.toNat < 0xF0 →
      IsTail x → (b.toNat = 0xE0 → 0xA0 ≤ x.toNat) → (b.toNat = 0xED → x.toNat ≤ 0x9F) →
      IsTail y → Long [b, x, y]
  | four {b x y z : UInt8} : 0xF0 ≤ b.toNat → b.toNat ≤ 0xF4 →
      IsTail x → (b.toNat = 0xF0 → 0x90 ≤ x.toNat) → (b.toNat = 0xF4 → x.toNat ≤ 0x8F) →
      IsTail y → IsTail z → Long [b, x, y, z]

theorem toNat_ofNat_of_valid {n : Nat} (h : n.isValidChar) : (Char.ofNat n).toNat = n := by
  rw [Char.ofNat, dif_pos h]
  rfl

theorem Long.exists_encodeChar {bytes : List UInt8} (h : Long bytes) :
    ∃ c, encodeChar c = bytes := by
  -- the number is named before the character, so that the arithmetic is about a variable
  cases h with
  | @two b x hb hb' hx =>
    obtain ⟨hx, hx'⟩ := hx
    obtain ⟨n, hval⟩ : ∃ n, n = (b.toNat - 0xC0) * 0x40 + (x.toNat - 0x80) := ⟨_, rfl⟩
    have hn : (Char.ofNat n).toNat = n :=
      toNat_ofNat_of_valid (by simp only [Nat.isValidChar]; omega)
    refine ⟨Char.ofNat n, ?_⟩
    simp only [encodeChar, hn]
    rw [if_neg (by omega), if_pos (by omega)]
    simp only [List.cons.injEq, ← UInt8.toNat_inj, UInt8.toNat_ofNat', and_true]
    omega
  | @three b x y hb hb' hx hlong hsurrogate hy =>
    obtain ⟨hx, hx'⟩ := hx
    obtain ⟨hy, hy'⟩ := hy
    obtain ⟨n, hval⟩ : ∃ n, n =
      (b.toNat - 0xE0) * 0x1000 + (x.toNat - 0x80) * 0x40 + (y.toNat - 0x80) := ⟨_, rfl⟩
    have hn : (Char.ofNat n).toNat = n :=
      toNat_ofNat_of_valid (by simp only [Nat.isValidChar]; omega)
    refine ⟨Char.ofNat n, ?_⟩
    simp only [encodeChar, hn]
    rw [if_neg (by omega), if_neg (by omega), if_pos (by omega)]
    simp only [List.cons.injEq, ← UInt8.toNat_inj, UInt8.toNat_ofNat', and_true]
    omega
  | @four b x y z hb hb' hx hlong hlarge hy hz =>
    obtain ⟨hx, hx'⟩ := hx
    obtain ⟨hy, hy'⟩ := hy
    obtain ⟨hz, hz'⟩ := hz
    obtain ⟨n, hval⟩ : ∃ n, n = (b.toNat - 0xF0) * 0x40000 + (x.toNat - 0x80) * 0x1000 +
      (y.toNat - 0x80) * 0x40 + (z.toNat - 0x80) := ⟨_, rfl⟩
    have hn : (Char.ofNat n).toNat = n :=
      toNat_ofNat_of_valid (by simp only [Nat.isValidChar]; omega)
    refine ⟨Char.ofNat n, ?_⟩
    simp only [encodeChar, hn]
    rw [if_neg (by omega), if_neg (by omega), if_neg (by omega)]
    simp only [List.cons.injEq, ← UInt8.toNat_inj, UInt8.toNat_ofNat', and_true]
    omega

theorem Long.ne_nil {bytes : List UInt8} (h : Long bytes) : bytes ≠ [] := by
  cases h <;> simp

theorem long_encodeChar (c : Char) :
    (∃ x, x.toNat < 0x80 ∧ encodeChar c = [x]) ∨ Long (encodeChar c) := by
  have hvalid : c.toNat < 0xD800 ∨ 0xDFFF < c.toNat ∧ c.toNat < 0x110000 := c.valid
  unfold encodeChar
  simp only
  split
  · refine .inl ⟨_, ?_, rfl⟩
    simp only [UInt8.toNat_ofNat']
    omega
  · right
    split
    · apply Long.two <;> simp only [IsTail, UInt8.toNat_ofNat'] <;> omega
    · split
      · apply Long.three <;> simp only [IsTail, UInt8.toNat_ofNat'] <;> omega
      · apply Long.four <;> simp only [IsTail, UInt8.toNat_ofNat'] <;> omega

/-! ### The decoder inside a character -/

/-- A byte that may come next in a character begun. -/
def Partial.Admits (p : Partial) (x : UInt8) : Prop := p.low ≤ x.toNat ∧ x.toNat ≤ p.high

instance (p : Partial) (x : UInt8) : Decidable (p.Admits x) :=
  inferInstanceAs (Decidable (_ ∧ _))

/-- A character begun, after a byte more. -/
def Partial.next (p : Partial) (x : UInt8) : Partial :=
  ⟨p.owed - 1, 0x80, 0xBF, p.bits * 0x40 + (x.toNat - 0x80)⟩

theorem Partial.admits_next {p : Partial} {x y : UInt8} : (p.next x).Admits y ↔ IsTail y := Iff.rfl

section
variable {p : Partial} {x : UInt8}

theorem step_last (h : p.Admits x) (howed : p.owed ≤ 1) :
    step (some p) x = (none, [Char.ofNat (p.bits * 0x40 + (x.toNat - 0x80))]) := by
  have hin : (p.low ≤ x.toNat && x.toNat ≤ p.high) = true := by simpa [Partial.Admits] using h
  simp only [step, hin, if_true, if_pos howed]

theorem step_next (h : p.Admits x) (howed : 1 < p.owed) :
    step (some p) x = (some (p.next x), []) := by
  have hin : (p.low ≤ x.toNat && x.toNat ≤ p.high) = true := by simpa [Partial.Admits] using h
  simp only [step, hin, if_true, if_neg (Nat.not_le_of_lt howed), Partial.next]

theorem step_refused (h : ¬ p.Admits x) :
    step (some p) x = ((step none x).1, replacement :: (step none x).2) := by
  have hout : ¬ (p.low ≤ x.toNat && x.toNat ≤ p.high) = true := by simpa [Partial.Admits] using h
  simp only [step, if_neg hout]

end

theorem step_begins {x : UInt8} {p : Partial} (h : lead x = .begins p) :
    step none x = (some p, []) := by
  simp only [step, start, h]

theorem step_tail {x : UInt8} (h : IsTail x) : step none x = (none, [replacement]) := by
  obtain ⟨hlow, hhigh⟩ := h
  have hlead : lead x = .invalid := by
    unfold lead
    rw [if_neg (by omega), if_pos (by omega)]
  simp only [step, start, hlead]

/-- A first byte tells how many bytes a character has, and bounds the second as the character
needs it. -/
theorem lead_begins {x : UInt8} {p : Partial} (h : lead x = .begins p) :
    (0xC2 ≤ x.toNat ∧ x.toNat < 0xE0 ∧ p.owed = 1 ∧ ∀ y, p.Admits y ↔ IsTail y) ∨
    (0xE0 ≤ x.toNat ∧ x.toNat < 0xF0 ∧ p.owed = 2 ∧ ∀ y, p.Admits y ↔ IsTail y ∧
      (x.toNat = 0xE0 → 0xA0 ≤ y.toNat) ∧ (x.toNat = 0xED → y.toNat ≤ 0x9F)) ∨
    (0xF0 ≤ x.toNat ∧ x.toNat ≤ 0xF4 ∧ p.owed = 3 ∧ ∀ y, p.Admits y ↔ IsTail y ∧
      (x.toNat = 0xF0 → 0x90 ≤ y.toNat) ∧ (x.toNat = 0xF4 → y.toNat ≤ 0x8F)) := by
  simp only [lead] at h
  repeat' split at h
  -- the bytes that begin nothing go; seven classes of first bytes are left
  all_goals cases h
  · exact .inl ⟨by omega, by omega, rfl, fun y => Iff.rfl⟩
  all_goals right
  iterate 3
    · exact .inl ⟨by omega, by omega, rfl, fun y => by simp only [Partial.Admits, IsTail]; omega⟩
  all_goals right
  iterate 3
    · exact ⟨by omega, by omega, rfl, fun y => by simp only [Partial.Admits, IsTail]; omega⟩

theorem exists_lead {x : UInt8} (hlow : 0xC2 ≤ x.toNat) (hhigh : x.toNat ≤ 0xF4) :
    ∃ p, lead x = .begins p := by
  simp only [lead]
  rw [if_neg (by omega), if_neg (by omega)]
  repeat' split
  all_goals first | exact ⟨_, rfl⟩ | omega

/-- Bytes that complete a character begun. -/
def Partial.Awaits (p : Partial) : List UInt8 → Prop
  | [] => False
  | x :: more => p.Admits x ∧ (∀ y ∈ more, IsTail y) ∧ more.length + 1 = p.owed

theorem awaits_next {p : Partial} {x y : UInt8} {more : List UInt8} (hx : p.Admits x)
    (howed : 1 < p.owed) : (p.next x).Awaits (y :: more) ↔ p.Awaits (x :: y :: more) := by
  have hlen : more.length + 1 = (p.next x).owed ↔ more.length + 1 + 1 = p.owed := by
    simp only [Partial.next]
    omega
  simp only [Partial.Awaits, Partial.admits_next, List.forall_mem_cons, List.length_cons, hx,
    true_and, and_assoc, hlen]

/-- The bytes of a character are a first byte, and those that are awaited after it. -/
theorem long_cons_iff {b : UInt8} {more : List UInt8} :
    Long (b :: more) ↔ ∃ p, lead b = .begins p ∧ p.Awaits more := by
  constructor
  · intro h
    cases h with
    | @two _ x hb hb' hx =>
      -- the classes of first bytes do not overlap, so the first byte tells the length
      obtain ⟨p, hp⟩ := exists_lead hb (by omega)
      rcases lead_begins hp with ⟨-, -, howed, hadmits⟩ | ⟨hb, -⟩ | ⟨hb, -⟩
      · exact ⟨p, hp, (hadmits x).mpr hx, by simp, by simp [howed]⟩
      · omega
      · omega
    | @three _ x y hb hb' hx hlong hsurrogate hy =>
      obtain ⟨p, hp⟩ := exists_lead (x := b) (by omega) (by omega)
      rcases lead_begins hp with ⟨-, hb', -⟩ | ⟨-, -, howed, hadmits⟩ | ⟨hb, -⟩
      · omega
      · exact ⟨p, hp, (hadmits x).mpr ⟨hx, hlong, hsurrogate⟩, by simpa using hy, by simp [howed]⟩
      · omega
    | @four _ x y z hb hb' hx hlong hlarge hy hz =>
      obtain ⟨p, hp⟩ := exists_lead (by omega) hb'
      rcases lead_begins hp with ⟨-, hb', -⟩ | ⟨-, hb', -⟩ | ⟨-, -, howed, hadmits⟩
      · omega
      · omega
      · exact ⟨p, hp, (hadmits x).mpr ⟨hx, hlong, hlarge⟩, by simpa using ⟨hy, hz⟩,
          by simp [howed]⟩
  · rintro ⟨p, hp, hawaits⟩
    obtain _ | ⟨x, more⟩ := more
    · exact hawaits.elim
    obtain ⟨hx, hmore, hlen⟩ := hawaits
    rcases lead_begins hp with ⟨hb, hb', howed, hadmits⟩ | ⟨hb, hb', howed, hadmits⟩ |
      ⟨hb, hb', howed, hadmits⟩
    · obtain rfl : more = [] := List.length_eq_zero_iff.mp (by omega)
      exact .two hb hb' ((hadmits x).mp hx)
    · obtain ⟨y, rfl⟩ := List.length_eq_one_iff.mp (by omega : more.length = 1)
      obtain ⟨htail, hlong, hsurrogate⟩ := (hadmits x).mp hx
      exact .three hb hb' htail hlong hsurrogate (hmore y (by simp))
    · obtain ⟨y, more, rfl⟩ := List.exists_cons_of_length_eq_add_one (by omega : more.length = 1 + 1)
      obtain ⟨z, rfl⟩ := List.length_eq_one_iff.mp (by simpa [howed] using hlen)
      obtain ⟨htail, hlong, hlarge⟩ := (hadmits x).mp hx
      exact .four hb hb' htail hlong hlarge (hmore y (by simp)) (hmore z (by simp))

/-- The bytes begin the character that the decoder is in. -/
structure Partial.Begun (p : Partial) (u : List UInt8) : Prop where
  nonempty : u ≠ []
  tail : ∀ x, p.Admits x → IsTail x
  owes : 1 ≤ p.owed
  completes : ∀ more, p.Awaits more → Long (u ++ more)

theorem begun_lead {x : UInt8} {p : Partial} (h : lead x = .begins p) : p.Begun [x] where
  nonempty := by simp
  tail := by
    intro y hy
    rcases lead_begins h with ⟨-, -, -, hadmits⟩ | ⟨-, -, -, hadmits⟩ | ⟨-, -, -, hadmits⟩
    · exact (hadmits y).mp hy
    · exact ((hadmits y).mp hy).1
    · exact ((hadmits y).mp hy).1
  owes := by
    rcases lead_begins h with ⟨-, -, howed, -⟩ | ⟨-, -, howed, -⟩ | ⟨-, -, howed, -⟩ <;> omega
  completes := fun more hmore => long_cons_iff.mpr ⟨p, h, hmore⟩

theorem begun_next {p : Partial} {u : List UInt8} {x : UInt8} (h : p.Begun u) (hx : p.Admits x)
    (howed : 1 < p.owed) : (p.next x).Begun (u ++ [x]) where
  nonempty := by simp
  tail := fun _ hy => hy
  owes := by
    simp only [Partial.next]
    omega
  completes := by
    intro more hmore
    obtain _ | ⟨y, more⟩ := more
    · exact hmore.elim
    rw [List.append_assoc]
    exact h.completes _ ((awaits_next hx howed).mp hmore)

/-- If the decoder is inside a character, the last of the bytes are those that began it. -/
def Tracks (s : State) (bytes : List UInt8) : Prop :=
  ∀ p, s = some p → ∃ u, u <:+ bytes ∧ p.Begun u

theorem tracks_none (bytes : List UInt8) : Tracks none bytes := by
  intro p hp
  cases hp

/-- A byte that is read between characters. -/
theorem tracks_start (bytes : List UInt8) (x : UInt8) : Tracks (step none x).1 (bytes ++ [x]) := by
  intro p hp
  cases hlead : lead x with
  | whole c => simp [step, start, hlead] at hp
  | invalid => simp [step, start, hlead] at hp
  | begins q =>
    rw [step_begins hlead] at hp
    cases hp
    exact ⟨[x], List.suffix_append _ _, begun_lead hlead⟩

theorem tracks_step {s : State} {bytes : List UInt8} (h : Tracks s bytes) (x : UInt8) :
    Tracks (step s x).1 (bytes ++ [x]) := by
  cases s with
  | none => exact tracks_start bytes x
  | some p =>
    by_cases hx : p.Admits x
    · by_cases howed : p.owed ≤ 1
      · rw [step_last hx howed]
        exact tracks_none _
      · rw [step_next hx (by omega)]
        intro q hq
        cases hq
        obtain ⟨u, ⟨before, rfl⟩, hbegun⟩ := h p rfl
        refine ⟨u ++ [x], ⟨before, ?_⟩, begun_next hbegun hx (by omega)⟩
        rw [List.append_assoc]
    · -- the character begun is given up, and the byte is read anew
      rw [step_refused hx]
      exact tracks_start bytes x

theorem tracks_run {s : State} {before : List UInt8} (h : Tracks s before) (bytes : List UInt8) :
    Tracks (run s bytes).1 (before ++ bytes) := by
  induction bytes generalizing s before with
  | nil => simpa [run] using h
  | cons x bytes ih =>
    have := ih (tracks_step h x)
    rw [List.append_assoc] at this
    exact this

/-- A first byte is read the same way from every state: no character goes on with it. -/
theorem step_lead {s : State} {bytes : List UInt8} (h : Tracks s bytes) {x : UInt8} {p : Partial}
    (hlead : lead x = .begins p) : (step s x).1 = some p := by
  have hlow : 0xC2 ≤ x.toNat := by
    rcases lead_begins hlead with ⟨hx, -⟩ | ⟨hx, -⟩ | ⟨hx, -⟩ <;> omega
  cases s with
  | none => rw [step_begins hlead]
  | some q =>
    -- first bytes and tails do not overlap, so `x` ends the character begun
    have hx : ¬ q.Admits x := by
      intro hx
      obtain ⟨u, -, hbegun⟩ := h q rfl
      have := (hbegun.tail x hx).2
      omega
    rw [step_refused hx, step_begins hlead]

theorem admits_of_awaits {p : Partial} {u rest : List UInt8} {x : UInt8}
    (h : p.Awaits (u ++ x :: rest)) : ∃ q, (run (some p) u).1 = some q ∧ q.Admits x := by
  induction u generalizing p with
  | nil => exact ⟨p, rfl, h.1⟩
  | cons y u ih =>
    have hy : p.Admits y := h.1
    have howed : 1 < p.owed := by
      have hlen : (u ++ x :: rest).length + 1 = p.owed := h.2.2
      simp only [List.length_append, List.length_cons] at hlen
      omega
    -- what is awaited after `y` is not empty, because `x` is in it
    obtain ⟨z, more, hmore⟩ := List.exists_cons_of_ne_nil (by simp : u ++ x :: rest ≠ [])
    rw [run_cons, step_next hy howed]
    apply ih
    rw [List.cons_append, hmore] at h
    rw [hmore]
    exact (awaits_next hy howed).mpr h

/-- Inside the bytes of a character, the decoder admits the next one of them, wherever it was
before. -/
theorem admits_of_long {s : State} {before : List UInt8} (h : Tracks s before)
    {u rest : List UInt8} {x : UInt8} (hu : u ≠ []) (hlong : Long (u ++ x :: rest)) :
    ∃ p, (run s u).1 = some p ∧ p.Admits x := by
  obtain ⟨b, u, rfl⟩ := List.exists_cons_of_ne_nil hu
  obtain ⟨p, hp, hawaits⟩ := long_cons_iff.mp hlong
  rw [run_cons, step_lead h hp]
  exact admits_of_awaits hawaits

/-! ### Cuts through a character -/

/-- A cut goes through a character: the bytes before it end with the beginning of one, and the first
byte after it goes on with that, whether or not the character is completed. -/
def Severs (a b : List UInt8) : Prop :=
  ∃ u x c, u ≠ [] ∧ u <:+ a ∧ b.head? = some x ∧ u ++ [x] <+: encodeChar c

/-- The decoder is inside a character at the cut, and admits the byte after it. -/
theorem severs_iff {a b : List UInt8} :
    Severs a b ↔ ∃ p x, (run none a).1 = some p ∧ b.head? = some x ∧ p.Admits x := by
  constructor
  · rintro ⟨u, x, c, hu, ⟨before, rfl⟩, hx, rest, hc⟩
    have hlong : Long (u ++ x :: rest) := by
      rw [List.append_assoc] at hc
      rw [List.singleton_append] at hc
      rcases long_encodeChar c with ⟨y, -, hy⟩ | hlong
      · -- a character of one byte has no place for a cut
        rw [hy] at hc
        have hlen := congrArg List.length hc
        have hpos := List.length_pos_iff.mpr hu
        simp only [List.length_append, List.length_cons, List.length_nil] at hlen
        omega
      · rwa [hc]
    have htracks : Tracks (run none before).1 before := tracks_run (tracks_none []) before
    obtain ⟨p, hp, hadmits⟩ := admits_of_long htracks hu hlong
    exact ⟨p, x, by rw [run_append]; exact hp, hx, hadmits⟩
  · rintro ⟨p, x, hp, hx, hadmits⟩
    obtain ⟨u, hsuffix, hbegun⟩ := tracks_run (tracks_none []) a p hp
    -- any tails that are still owed make a character of the bytes begun
    have hmore : p.Awaits (x :: List.replicate (p.owed - 1) 0x80) := by
      refine ⟨hadmits, ?_, ?_⟩
      · intro y hy
        rw [List.eq_of_mem_replicate hy]
        exact ⟨by decide, by decide⟩
      · have := hbegun.owes
        simp only [List.length_replicate]
        omega
    obtain ⟨c, hc⟩ := (hbegun.completes _ hmore).exists_encodeChar
    refine ⟨u, x, c, hbegun.nonempty, hsuffix, hx, List.replicate (p.owed - 1) 0x80, ?_⟩
    rw [hc, List.append_assoc, List.singleton_append]

instance (a b : List UInt8) : Decidable (Severs a b) :=
  match hs : (run none a).1, hb : b.head? with
  | some p, some x => decidable_of_iff (p.Admits x) (by simp [severs_iff, hs, hb])
  | none, _ => isFalse (by simp [severs_iff, hs])
  | some _, none => isFalse (by simp [severs_iff, hb])

/-! ### Pieces decoded on their own -/

theorem readFrom_refused {p : Partial} {bytes : List UInt8} (h : ∀ x ∈ bytes.head?, ¬ p.Admits x) :
    readFrom (some p) bytes = replacement :: readFrom none bytes := by
  cases bytes with
  | nil => rfl
  | cons x bytes =>
    have hx : ¬ p.Admits x := h x rfl
    rw [readFrom_cons, readFrom_cons none, step_refused hx, List.cons_append]

/-- Where no character is cut, the pieces can be decoded on their own. -/
theorem decodeLossy_append {a b : List UInt8} (h : ¬ Severs a b) :
    decodeLossy (a ++ b) = decodeLossy a ++ decodeLossy b := by
  have ha : decodeLossy a = (run none a).2 ++ finish (run none a).1 := rfl
  rw [decodeLossy_append_eq, ha, List.append_assoc]
  congr 1
  cases hs : (run none a).1 with
  | none => rfl
  | some p =>
    have hrefused : ∀ x ∈ b.head?, ¬ p.Admits x := by
      intro x hx hadmits
      exact h (severs_iff.mpr ⟨p, x, hs, hx, hadmits⟩)
    rw [readFrom_refused hrefused]
    rfl

section
variable {shown : Char → Bool} (hshown : shown replacement = true)
include hshown

/-- Inside a character, the bytes that follow yield at most one character more than they do on their
own: the replacement of what was begun. If the first of them is admitted, then on its own it is
malformed, and they yield no more at all. -/
theorem countP_readFrom_le {p : Partial} {u : List UInt8} (hp : p.Begun u) (bytes : List UInt8) :
    (readFrom (some p) bytes).countP shown ≤ (readFrom none bytes).countP shown +
      if ∃ x ∈ bytes.head?, p.Admits x then 0 else 1 := by
  induction bytes generalizing p u with
  | nil => simp [readFrom, run, finish, hshown]
  | cons x bytes ih =>
    by_cases hx : p.Admits x
    · rw [if_pos ⟨x, rfl, hx⟩, Nat.add_zero, readFrom_cons, readFrom_cons none,
        step_tail (hp.tail x hx), List.countP_append, List.countP_append]
      by_cases howed : p.owed ≤ 1
      · -- the character is completed, and stands where the replacement would
        rw [step_last hx howed]
        have := List.countP_le_length (p := shown)
          (l := [Char.ofNat (p.bits * 0x40 + (x.toNat - 0x80))])
        simp only [List.length_singleton] at this
        simp only [List.countP_singleton, hshown, if_true] at this ⊢
        omega
      · -- the character goes on, and may have to be given up later: one more at most
        rw [step_next hx (by omega)]
        have := ih (begun_next hp hx (by omega))
        have hone : (if ∃ y ∈ bytes.head?, (p.next x).Admits y then 0 else 1) ≤ 1 := by
          split <;> omega
        simp only [List.countP_nil, List.countP_singleton, hshown, if_true]
        omega
    · have hnone : ∀ y ∈ (x :: bytes).head?, ¬ p.Admits y := by
        intro y hy
        cases hy
        exact hx
      have hnot : ¬ ∃ y ∈ (x :: bytes).head?, p.Admits y := by
        rintro ⟨y, hy, hadmits⟩
        exact hnone y hy hadmits
      apply Nat.le_of_eq
      rw [readFrom_refused hnone, List.countP_cons, hshown, if_pos rfl, if_neg hnot]

/-- A cut through a character shows. -/
theorem countP_append_lt {a b : List UInt8} (h : Severs a b) :
    (decodeLossy (a ++ b)).countP shown < (decodeLossy a ++ decodeLossy b).countP shown := by
  obtain ⟨p, x, hp, hx, hadmits⟩ := severs_iff.mp h
  obtain ⟨u, -, hbegun⟩ := tracks_run (tracks_none []) a p hp
  have ha : decodeLossy a = (run none a).2 ++ [replacement] := by
    rw [decodeLossy_eq, readFrom, hp]
    rfl
  have hb := countP_readFrom_le hshown hbegun b
  rw [if_pos ⟨x, hx, hadmits⟩] at hb
  rw [decodeLossy_append_eq, hp, ha, decodeLossy_eq b]
  simp only [List.countP_append, List.countP_singleton, hshown, if_true]
  omega

end

/-- No cut goes through a character. -/
def Intact : List (List UInt8) → Prop
  | [] => True
  | piece :: rest => ¬ Severs piece rest.flatten ∧ Intact rest

instance decidableIntact : (pieces : List (List UInt8)) → Decidable (Intact pieces)
  | [] => .isTrue trivial
  | piece :: rest =>
    have := decidableIntact rest
    inferInstanceAs (Decidable (¬ Severs piece rest.flatten ∧ Intact rest))

theorem decodeLossy_flatten {pieces : List (List UInt8)} (h : Intact pieces) :
    decodeLossy pieces.flatten = pieces.flatMap decodeLossy := by
  induction pieces with
  | nil => rfl
  | cons piece rest ih =>
    rw [List.flatten_cons, List.flatMap_cons, decodeLossy_append h.1, ih h.2]

theorem run_of_awaits {p : Partial} {rest : List UInt8} (h : p.Awaits rest) :
    (run (some p) rest).1 = none := by
  induction rest generalizing p with
  | nil => exact h.elim
  | cons x more ih =>
    obtain ⟨hx, -, hlen⟩ := id h
    rw [run_cons]
    cases more with
    | nil =>
      rw [List.length_nil] at hlen
      rw [step_last hx (by omega)]
      rfl
    | cons y more =>
      rw [List.length_cons] at hlen
      rw [step_next hx (by omega)]
      exact ih ((awaits_next hx (by omega)).mpr h)

/-- After whole characters the decoder is between characters. -/
theorem run_encode (cs : List Char) : (run none (encode cs)).1 = none := by
  induction cs with
  | nil => rfl
  | cons c cs ih =>
    have hc : (run none (encodeChar c)).1 = none := by
      rcases long_encodeChar c with ⟨x, hx, hc⟩ | hlong
      · rw [hc, run_cons, step, start, lead]
        simp only [if_pos hx]
        rfl
      · obtain ⟨b, more, hbytes⟩ := List.exists_cons_of_ne_nil hlong.ne_nil
        obtain ⟨p, hp, hawaits⟩ := long_cons_iff.mp (hbytes ▸ hlong)
        rw [hbytes, run_cons, step_begins hp]
        exact run_of_awaits hawaits
    rw [encode, List.flatMap_cons, run_append, hc]
    exact ih

/-- Pieces that are whole characters each, as an engine may cut a text of its own. -/
theorem intact_map_encode (texts : List (List Char)) : Intact (texts.map encode) := by
  induction texts with
  | nil => trivial
  | cons cs texts ih =>
    refine ⟨?_, ih⟩
    rw [severs_iff]
    rintro ⟨p, x, hp, -⟩
    rw [run_encode] at hp
    cases hp

section
variable {shown : Char → Bool} (hshown : shown replacement = true)
include hshown

theorem countP_append_le (a b : List UInt8) :
    (decodeLossy (a ++ b)).countP shown ≤ (decodeLossy a ++ decodeLossy b).countP shown := by
  by_cases h : Severs a b
  · exact Nat.le_of_lt (countP_append_lt hshown h)
  · exact Nat.le_of_eq (congrArg _ (decodeLossy_append h))

theorem countP_flatten_le (pieces : List (List UInt8)) :
    (decodeLossy pieces.flatten).countP shown ≤ (pieces.flatMap decodeLossy).countP shown := by
  induction pieces with
  | nil => exact Nat.le_refl _
  | cons piece rest ih =>
    have := countP_append_le hshown piece rest.flatten
    rw [List.countP_append] at this
    rw [List.flatten_cons, List.flatMap_cons, List.countP_append]
    omega

/-- Cuts through characters show, however many there are: none hides another. -/
theorem countP_flatten_lt {pieces : List (List UInt8)} (h : ¬ Intact pieces) :
    (decodeLossy pieces.flatten).countP shown < (pieces.flatMap decodeLossy).countP shown := by
  induction pieces with
  | nil => exact absurd trivial h
  | cons piece rest ih =>
    rw [List.flatten_cons, List.flatMap_cons, List.countP_append]
    by_cases hcut : Severs piece rest.flatten
    · -- the first cut shows, and the others take nothing back
      have hlt := countP_append_lt hshown hcut
      have hle := countP_flatten_le hshown rest
      rw [List.countP_append] at hlt
      omega
    · have hlt := ih fun hrest => h ⟨hcut, hrest⟩
      rw [decodeLossy_append hcut, List.countP_append]
      omega

end

end NodeStack.Text.Utf8
