import NodeStack.Engine.Multiplex

/-!
# `NodeStack.Proofs.Engine.Multiplex`: framed chunks are read back

`chunks_frames`: chunks that were put behind their heads, one after the other, are read back as they
were, with nothing left over. A head has four bytes for the length, so no chunk may be longer than
they can say; and a terminal has no frames.
-/

set_option autoImplicit false

namespace NodeStack.Engine

/-- A chunk that a head can stand before. -/
structure Chunk.Framed (c : Chunk) : Prop where
  source : c.source ≠ .terminal
  length : c.bytes.length < 2 ^ 32

theorem ofFourBytes_fourBytes {n : Nat} (h : n < 2 ^ 32) :
    ofFourBytes (UInt8.ofNat (n / 2 ^ 24)) (UInt8.ofNat (n / 2 ^ 16 % 256))
      (UInt8.ofNat (n / 2 ^ 8 % 256)) (UInt8.ofNat (n % 256)) = n := by
  simp only [ofFourBytes, UInt8.toNat_ofNat']
  omega

theorem tag_le_two {s : Source} (h : s ≠ .terminal) : ¬ 2 < s.tag := by
  cases s with
  | terminal => exact absurd rfl h
  | input => decide
  | output => decide
  | error => decide

theorem ofTag_tag (s : Source) : Source.ofTag s.tag = s := by
  cases s <;> rfl

theorem frame_eq {c : Chunk} (h : c.Framed) :
    c.frame = c.source.tag :: 0 :: 0 :: 0 :: (fourBytes c.bytes.length ++ c.bytes) := by
  have hsource := h.source
  unfold Chunk.frame
  cases hs : c.source with
  | terminal => exact absurd hs hsource
  | input => rfl
  | output => rfl
  | error => rfl

theorem firstChunk?_frame (handedOver : Bool) {c : Chunk} (h : c.Framed) (rest : List UInt8) :
    firstChunk? handedOver (c.frame ++ rest) = some (c, rest) := by
  rw [frame_eq h, fourBytes]
  simp only [List.cons_append, List.nil_append, firstChunk?, if_neg (tag_le_two h.source),
    ofFourBytes_fourBytes h.length, ofTag_tag, List.length_append, Nat.le_add_right, if_true,
    List.take_left, List.drop_left]

theorem chunksWithin_frames (handedOver : Bool) {cs : List Chunk} (h : ∀ c ∈ cs, c.Framed)
    {fuel : Nat} (hfuel : cs.length ≤ fuel) :
    chunksWithin handedOver fuel (cs.flatMap Chunk.frame) = (cs, true) := by
  induction cs generalizing fuel with
  | nil => cases fuel <;> rfl
  | cons c cs ih =>
    -- each chunk takes one unit of fuel
    rw [List.length_cons] at hfuel
    obtain ⟨fuel, rfl⟩ : ∃ n, fuel = n + 1 := ⟨fuel - 1, by omega⟩
    rw [List.flatMap_cons, chunksWithin, firstChunk?_frame handedOver (h c (by simp))]
    simp only [ih (fun d hd => h d (List.mem_cons_of_mem c hd)) (by omega : cs.length ≤ fuel)]

/-- A chunk takes at least one byte: its head alone is longer. -/
theorem length_le_frames {cs : List Chunk} (h : ∀ c ∈ cs, c.Framed) :
    cs.length ≤ (cs.flatMap Chunk.frame).length := by
  induction cs with
  | nil => exact Nat.le_refl 0
  | cons c cs ih =>
    have hrest := ih fun d hd => h d (List.mem_cons_of_mem c hd)
    rw [List.flatMap_cons, frame_eq (h c (by simp))]
    simp only [List.length_append, List.length_cons]
    omega

/-- Framed chunks are read back, and nothing is left over. -/
theorem chunks_frames (handedOver : Bool) {cs : List Chunk} (h : ∀ c ∈ cs, c.Framed) :
    chunks handedOver (cs.flatMap Chunk.frame) = (cs, true) :=
  chunksWithin_frames handedOver h (length_le_frames h)

end NodeStack.Engine
