import NodeStack.Proofs.Engine.LogLines
import NodeStack.Proofs.Text.Segments

/-!
# `NodeStack.Proofs.Engine.Segments`: lines of a log as segments of its text

* `ended_segments`, `unended_segments`: the lines of a text and what is left of it, by its segments.
* `feed_segments`: what is pending after some pieces is the tail of their text, so the lines of
  later pieces go on from there.
* `lines_are_segments`: a log in pieces has one line for each segment of the whole text, without the
  carriage returns at its end. The tail follows as it is when the log ends well; a fault follows
  when it does not.
* `linesOf_streamed`: the answer of an engine is such a log.
-/

set_option autoImplicit false

namespace NodeStack.Engine

open Text (Segments exists_segments)

/-- The line of a segment: the carriage returns at its end go. -/
def lineOf (segment : List Char) : String := String.ofList (segment.rdropWhile (· = '\r'))

section
variable {text : List Char} {segments : List (List Char)} {tail : List Char}

theorem ended_segments (h : Segments text segments tail) :
    ended text = segments.map lineOf := by
  rw [ended, h.splitOn, List.dropLast_concat]
  rfl

theorem unended_segments (h : Segments text segments tail) : unended text = tail := by
  simp only [unended, h.splitOn, List.getLast_concat]

theorem newline_not_mem_lineOf {s : List Char} (h : '\n' ∉ s) : '\n' ∉ (lineOf s).toList := by
  rw [lineOf, String.toList_ofList]
  exact fun hmem => h ((List.rdropWhile_prefix (· = '\r') s).subset hmem)

/-! ### Logs in pieces -/

/-- Some pieces complete the segments of their text, and leave its tail pending. -/
theorem feed_segments (h : Segments text segments tail) :
    feed [] text = (segments.map lineOf, tail.reverse) := by
  rw [feed_eq (by simp), List.reverse_nil, List.nil_append, ended_segments h, unended_segments h]

/-- What comes after the segments of a log about the container `name`: the tail, unless it is empty,
or the fault that ends the log. The engine says 404 if there is no such container. -/
def lastItems (name : String) (tail : List Char) : Option Fault → List (Except Fault String)
  | none => if tail = [] then [] else [.ok (String.ofList tail)]
  | some (.refused 404 _) => [.error (.containerNotFound name)]
  | some fault => [.error fault]

theorem lastItems_fault (name : String) (tail : List Char) (fault : Fault) :
    lastItems name tail (some fault) = [.error (fault.about name)] := by
  unfold lastItems Fault.about
  split
  · next h => cases h
  · next h => cases h; rfl
  · next hnot h =>
    cases h
    split
    · exact absurd rfl (hnot _)
    · rfl

theorem logLines_segments (name : String) (failure : Option Fault) {pieces : List (List Char)}
    (h : Segments pieces.flatten segments tail) :
    logLines (failure.map (Fault.about name)) pieces =
      (segments.map lineOf).map .ok ++ lastItems name tail failure := by
  rw [logLines_eq]
  cases failure with
  | some fault => simp only [Option.map_some, ended_segments h, lastItems_fault]
  | none =>
    simp only [Option.map_none, linesIn, ended_segments h, unended_segments h, lastItems,
      List.map_append]
    split <;> rfl

/-- The log goes on from the tail of its first pieces. -/
theorem logLines_append (ending : Option Fault) {early : List (List Char)}
    (h : Segments early.flatten segments tail) (late : List (List Char)) :
    logLines ending (early ++ late) =
      (segments.map lineOf).map .ok ++ logLinesFrom ending tail.reverse late := by
  rw [logLines, logLinesFrom_eq, List.flatten_append, feed_append, feed_segments h,
    List.map_append, List.append_assoc, ← logLinesFrom_eq]

/-- No line of a log has a line feed in it. -/
theorem newline_not_mem_items {name : String} {failure : Option Fault} {line : String}
    (h : Segments text segments tail)
    (hline : .ok line ∈ (segments.map lineOf).map .ok ++ lastItems name tail failure) :
    '\n' ∉ line.toList := by
  rcases List.mem_append.mp hline with hline | hline
  · obtain ⟨line', hline', heq⟩ := List.mem_map.mp hline
    obtain ⟨s, hs, rfl⟩ := List.mem_map.mp hline'
    cases heq
    exact newline_not_mem_lineOf (h.segments s hs)
  · cases failure with
    | some fault =>
      rw [lastItems_fault, List.mem_singleton] at hline
      cases hline
    | none =>
      simp only [lastItems] at hline
      split at hline
      · cases hline
      · rw [List.mem_singleton] at hline
        cases hline
        rw [String.toList_ofList]
        exact h.tail

/-- The pieces of text that an engine sends as the log of a container, and the fault that ends them,
if one does. -/
def Answer.streamed (a : Answer) : List (List Char) × Option Fault :=
  match a.accepted? with
  | .error fault => ([], some fault)
  | .ok a => pieces a

/-- An answer about the log of a container is a log in pieces. -/
theorem linesOf_streamed (name : String) (a : Answer) :
    linesOf name a = logLines (a.streamed.2.map (Fault.about name)) a.streamed.1 := by
  unfold linesOf Answer.streamed
  cases a.accepted? with
  | error fault => rfl
  | ok a =>
    -- a body that breaks off is unusable, whatever container it is about
    have hending : (pieces a).2.map (Fault.about name) = (pieces a).2 := by
      simp only [pieces]
      split <;> rfl
    simp only [hending]

end

/-- The log of the container `name` in any pieces, empty ones among them, that ends well or with a
fault:

* it has one line for each segment of the whole text that a line feed ends, in order, without the
  carriage returns at the segment's end. If the log ends well, what is left of the text follows as
  it is, unless it is empty; if it does not, the fault follows, which is that there is no such
  container if the engine said 404;
* no line has a line feed in it;
* the lines of the first pieces are there before the others come, which go on from the tail;
* and every answer of the engine about a log is taken for such a log. -/
theorem lines_are_segments (name : String) :
    (∀ (pieces : List (List Char)) (failure : Option Fault),
      let lines := logLines (failure.map (Fault.about name)) pieces
      (∃ segments tail, Segments pieces.flatten segments tail ∧
        lines = (segments.map lineOf).map .ok ++ lastItems name tail failure) ∧
      (∀ line, .ok line ∈ lines → '\n' ∉ line.toList) ∧
      ∀ early late, pieces = early ++ late →
        ∃ segments tail, Segments early.flatten segments tail ∧
          lines = (segments.map lineOf).map .ok ++
            logLinesFrom (failure.map (Fault.about name)) tail.reverse late) ∧
    ∀ a : Answer, linesOf name a =
      logLines (a.streamed.2.map (Fault.about name)) a.streamed.1 := by
  refine ⟨fun pieces failure => ?_, linesOf_streamed name⟩
  obtain ⟨segments, tail, h⟩ := exists_segments pieces.flatten
  refine ⟨⟨segments, tail, h, logLines_segments name failure h⟩, fun line hline => ?_, ?_⟩
  · rw [logLines_segments name failure h] at hline
    exact newline_not_mem_items h hline
  · rintro early late rfl
    obtain ⟨segments, tail, h⟩ := exists_segments early.flatten
    exact ⟨segments, tail, h, logLines_append _ h late⟩

/-- Cuts between a carriage return and its line feed, and within a line; the log breaks off. -/
example : logLines ((some (.refused 404 "gone")).map (Fault.about "x"))
    [['a', '\r'], ['\n', 'b'], [], ['c', '\n', 'd']] =
      [.ok "a", .ok "bc", .error (.containerNotFound "x")] := by
  decide

end NodeStack.Engine
