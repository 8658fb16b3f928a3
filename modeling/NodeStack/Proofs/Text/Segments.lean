/-!
# `NodeStack.Proofs.Text.Segments`: a text as segments that a line feed ends

* `Segments`: a text is segments that a line feed ends, and a tail without one.
* `exists_segments`, `Segments.splitOn`: every text can be said so, and in one way only.
* `segments_lines`: texts that end with their only line feed are the segments of what they make up.
-/

set_option autoImplicit false

namespace NodeStack.Text

/-- A text is segments that a line feed ends, and a tail without one. -/
structure Segments (text : List Char) (segments : List (List Char)) (tail : List Char) : Prop where
  text : text = segments.flatMap (· ++ ['\n']) ++ tail
  segments : ∀ s ∈ segments, '\n' ∉ s
  tail : '\n' ∉ tail

theorem exists_segments (text : List Char) : ∃ segments tail, Segments text segments tail := by
  induction text with
  | nil => exact ⟨[], [], rfl, by simp, by simp⟩
  | cons c text ih =>
    obtain ⟨segments, tail, rfl, hsegments, htail⟩ := ih
    by_cases hc : c = '\n'
    · subst hc
      exact ⟨[] :: segments, tail, rfl, by simpa using hsegments, htail⟩
    · -- the character belongs to the first segment, or to the tail if there is none
      cases segments with
      | nil => exact ⟨[], c :: tail, rfl, by simp, by simpa [Ne.symm hc] using htail⟩
      | cons s segments =>
        refine ⟨(c :: s) :: segments, tail, rfl, ?_, htail⟩
        simpa [Ne.symm hc] using hsegments

section
variable {text : List Char} {segments : List (List Char)} {tail : List Char}

/-- The segments and the tail are what stands between the line feeds. -/
theorem Segments.splitOn (h : Segments text segments tail) :
    text.splitOn '\n' = segments ++ [tail] := by
  obtain ⟨rfl, hsegments, htail⟩ := h
  induction segments with
  | nil => exact List.splitOn_eq_singleton htail
  | cons s segments ih =>
    rw [List.forall_mem_cons] at hsegments
    rw [List.flatMap_cons, List.append_assoc, List.append_assoc, List.singleton_append,
      List.splitOn_append_cons_self_of_not_mem hsegments.1, ih hsegments.2]
    rfl

end

/-- A text that is made up of lines has just these segments, and nothing is left of it. -/
theorem segments_lines {lines : List (List Char)} (h : ∀ line ∈ lines, '\n' ∉ line) :
    Segments (lines.flatMap (· ++ ['\n'])) lines [] :=
  ⟨(List.append_nil _).symm, h, List.not_mem_nil⟩

end NodeStack.Text
