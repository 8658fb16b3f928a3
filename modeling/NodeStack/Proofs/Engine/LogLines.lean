import Mathlib.Data.List.DropRight
import NodeStack.Engine.Interface
import NodeStack.Proofs.Engine.Multiplex
import NodeStack.Proofs.Text.Utf8

/-!
# `NodeStack.Proofs.Engine.LogLines`: the lines of a log that comes in pieces

A log comes in chunks, and the engine cuts it where it likes. Two things are done with each chunk
before the next one is there: its bytes are decoded, and its text is cut into lines.

* `linesIn`: the lines of a text that is all at hand.
* `feed_eq`, `logLines_eq`: cutting a text into lines in pieces gives the lines of the whole. What is
  pending is the last segment so far, which has no line feed in it.
* `countP_linesIn`: lines keep all characters of the text but the line ends.
* `Answer.Brings`: an answer that brings a log in some pieces.
* `lines_eq_whole_iff`: decoding is another matter. A character that is cut in two becomes
  replacement characters, so the lines are those of the whole exactly if no character is cut.
  `not_lines_eq_severed` is the shortest case.

If the decoder were carried over from chunk to chunk, as the pending line is, no cut would matter.
-/

set_option autoImplicit false

namespace NodeStack.Engine

open Text.Utf8 (decodeLossy Intact)

/-! ### Lines of a whole text -/

/-- The lines of a text that a line feed ends. -/
def ended (text : List Char) : List String :=
  (text.splitOn '\n').dropLast.map fun line => String.ofList (line.rdropWhile (· = '\r'))

/-- What follows the last line feed of a text. -/
def unended (text : List Char) : List Char :=
  (text.splitOn '\n').getLast (List.splitOn_ne_nil _ _)

/-- The lines of a text, all of it at hand. -/
def linesIn (text : List Char) : List String :=
  ended text ++ if unended text = [] then [] else [String.ofList (unended text)]

theorem ended_open {line : List Char} (h : '\n' ∉ line) : ended line = [] := by
  simp [ended, List.splitOn_eq_singleton h]

theorem unended_open {line : List Char} (h : '\n' ∉ line) : unended line = line := by
  simp [unended, List.splitOn_eq_singleton h]

theorem closeLine_eq (line : List Char) :
    closeLine line.reverse = String.ofList (line.rdropWhile (· = '\r')) := rfl

theorem ended_line {line : List Char} (h : '\n' ∉ line) (rest : List Char) :
    ended (line ++ '\n' :: rest) = closeLine line.reverse :: ended rest := by
  rw [ended, List.splitOn_append_cons_self_of_not_mem h,
    List.dropLast_cons_of_ne_nil (List.splitOn_ne_nil _ _), List.map_cons, closeLine_eq]
  rfl

theorem unended_line {line : List Char} (h : '\n' ∉ line) (rest : List Char) :
    unended (line ++ '\n' :: rest) = unended rest := by
  simp only [unended, List.splitOn_append_cons_self_of_not_mem h]
  rw [List.getLast_cons (List.splitOn_ne_nil _ _)]

/-! ### Lines of a text that comes in pieces -/

theorem feed_lineFeed (pending rest : List Char) :
    feed pending ('\n' :: rest) =
      (closeLine pending :: (feed [] rest).1, (feed [] rest).2) := rfl

theorem feed_char {c : Char} (h : c ≠ '\n') (pending rest : List Char) :
    feed pending (c :: rest) = feed (c :: pending) rest := if_neg h

theorem feed_append (pending a b : List Char) :
    feed pending (a ++ b) =
      ((feed pending a).1 ++ (feed (feed pending a).2 b).1, (feed (feed pending a).2 b).2) := by
  induction a generalizing pending with
  | nil => rfl
  | cons c a ih =>
    by_cases hc : c = '\n'
    · rw [hc, List.cons_append, feed_lineFeed, feed_lineFeed, ih, List.cons_append]
    · rw [List.cons_append, feed_char hc, feed_char hc, ih]

/-- What is pending is the beginning of a line: no line feed is in it. -/
theorem feed_eq {pending : List Char} (h : '\n' ∉ pending) (piece : List Char) :
    feed pending piece =
      (ended (pending.reverse ++ piece), (unended (pending.reverse ++ piece)).reverse) := by
  induction piece generalizing pending with
  | nil =>
    have hline : '\n' ∉ pending.reverse := by simpa using h
    rw [List.append_nil, ended_open hline, unended_open hline, List.reverse_reverse]
    rfl
  | cons c piece ih =>
    by_cases hc : c = '\n'
    · -- the line is over, and the next one begins with nothing pending
      have hline : '\n' ∉ pending.reverse := by simpa using h
      rw [hc, feed_lineFeed, ended_line hline, unended_line hline, ih (by simp),
        List.reverse_reverse]
      rfl
    · have hmore : '\n' ∉ c :: pending := by
        rw [List.mem_cons, not_or]
        exact ⟨Ne.symm hc, h⟩
      rw [feed_char hc, ih hmore, List.reverse_cons, List.append_assoc]
      rfl

theorem logLinesFrom_eq (ending : Option Fault) (pending : List Char)
    (pieces : List (List Char)) :
    logLinesFrom ending pending pieces =
      (feed pending pieces.flatten).1.map .ok ++
        logLinesFrom ending (feed pending pieces.flatten).2 [] := by
  induction pieces generalizing pending with
  | nil => rfl
  | cons piece rest ih =>
    have hpiece : logLinesFrom ending pending (piece :: rest) =
        (feed pending piece).1.map .ok ++ logLinesFrom ending (feed pending piece).2 rest := rfl
    rw [hpiece, ih, List.flatten_cons, feed_append, List.map_append, List.append_assoc]

/-- A log in pieces has the lines of the whole: those that are ended, and then what is left if the
log ends well, or the fault that ends it. -/
theorem logLines_eq (ending : Option Fault) (pieces : List (List Char)) :
    logLines ending pieces =
      match ending with
      | some fault => (ended pieces.flatten).map .ok ++ [.error fault]
      | none => (linesIn pieces.flatten).map .ok := by
  rw [logLines, logLinesFrom_eq, feed_eq (by simp), List.reverse_nil, List.nil_append]
  cases ending with
  | some fault => rfl
  | none =>
    -- what is pending when the log ends is a line too, unless it is empty
    simp only [logLinesFrom, linesIn, List.map_append, List.isEmpty_reverse, List.isEmpty_iff,
      List.reverse_reverse]
    split <;> rfl

/-! ### What the lines keep of the text -/

/-- A character that no line is cut at. -/
def inLine (c : Char) : Bool := c != '\n' && c != '\r'

theorem countP_closeLine (pending : List Char) :
    (closeLine pending).toList.countP inLine = pending.countP inLine := by
  rw [closeLine, String.toList_ofList, List.countP_reverse]
  induction pending with
  | nil => rfl
  | cons c pending ih =>
    by_cases hc : c = '\r'
    · -- a carriage return at the end of the line goes, and is not counted
      subst hc
      simpa [inLine] using ih
    · simp [hc]

/-- Only line feeds and carriage returns are lost when a text is cut into lines. -/
theorem countP_feed (pending piece : List Char) :
    ((feed pending piece).1.flatMap String.toList).countP inLine +
      (feed pending piece).2.countP inLine = pending.countP inLine + piece.countP inLine := by
  induction piece generalizing pending with
  | nil => simp [feed]
  | cons c piece ih =>
    by_cases hc : c = '\n'
    · have := ih []
      rw [List.countP_nil] at this
      rw [hc, feed_lineFeed, List.flatMap_cons, List.countP_append, countP_closeLine,
        List.countP_cons]
      simp only [inLine, bne_self_eq_false, Bool.false_and, Bool.false_eq_true, if_false]
      omega
    · rw [feed_char hc, ih, List.countP_cons, List.countP_cons]
      omega

theorem countP_linesIn (text : List Char) :
    ((linesIn text).flatMap String.toList).countP inLine = text.countP inLine := by
  have hfeed : feed [] text = (ended text, (unended text).reverse) := feed_eq (by simp) text
  have hcount := countP_feed [] text
  rw [hfeed, List.countP_reverse, List.countP_nil, Nat.zero_add] at hcount
  rw [linesIn, List.flatMap_append, List.countP_append, ← hcount]
  congr 1
  split
  · next h => simp [h]
  · simp

/-! ### Cuts in a log -/

/-- An answer that brings a log in these pieces, and whole. -/
structure Answer.Brings (a : Answer) (cuts : List (List UInt8)) : Prop where
  accepted : a.accepted? = .ok a
  chunks : ∃ cs, Engine.chunks false a.body = (cs, true) ∧ cs.map Chunk.bytes = cuts

/-- Output of a source may be framed in any pieces that a head can stand before. -/
theorem brings_frames {source : Source} (hsource : source ≠ .terminal) {cuts : List (List UInt8)}
    (hlength : ∀ bytes ∈ cuts, bytes.length < 2 ^ 32) :
    Answer.Brings ⟨200, cuts.flatMap fun bytes => Chunk.frame ⟨source, bytes⟩⟩ cuts where
  accepted := rfl
  chunks := by
    have hframed : ∀ c ∈ cuts.map (Chunk.mk source), c.Framed := by
      intro c hc
      obtain ⟨bytes, hbytes, rfl⟩ := List.mem_map.mp hc
      exact ⟨hsource, hlength bytes hbytes⟩
    refine ⟨cuts.map (Chunk.mk source), ?_, ?_⟩
    · have := chunks_frames false hframed
      rwa [List.flatMap_map] at this
    · rw [List.map_map]
      exact List.map_id _

theorem linesOf_eq {a : Answer} {cuts : List (List UInt8)} (h : a.Brings cuts) (name : String) :
    linesOf name a = (linesIn (cuts.flatMap decodeLossy)).map .ok := by
  obtain ⟨cs, hcs, rfl⟩ := h.chunks
  have hlines : linesOf name a = logLines none (cs.map fun c => decodeLossy c.bytes) := by
    simp only [linesOf, h.accepted, pieces, hcs, if_true]
  rw [hlines, logLines_eq, ← List.flatMap_def, List.flatMap_map]

/-- A log has the lines of its pieces, each decoded on its own. These are the lines of the whole
exactly if no piece ends inside a character that the next bytes go on with; and any way to cut the
output of a source can come. -/
theorem lines_eq_whole_iff (name : String) (cuts : List (List UInt8)) :
    (∀ a : Answer, a.Brings cuts →
      linesOf name a = (linesIn (cuts.flatMap decodeLossy)).map .ok ∧
      (linesOf name a = (linesIn (decodeLossy cuts.flatten)).map .ok ↔ Intact cuts)) ∧
    ∀ source, source ≠ .terminal → (∀ bytes ∈ cuts, bytes.length < 2 ^ 32) →
      Answer.Brings ⟨200, cuts.flatMap fun bytes => Chunk.frame ⟨source, bytes⟩⟩ cuts := by
  refine ⟨?_, fun source hsource hlength => brings_frames hsource hlength⟩
  intro a ha
  have hlines := linesOf_eq ha name
  refine ⟨hlines, ?_, ?_⟩
  · intro hwhole
    -- equal lines have equally many characters, and a cut character would be one more
    rw [hlines] at hwhole
    have hsame : linesIn (cuts.flatMap decodeLossy) = linesIn (decodeLossy cuts.flatten) :=
      List.map_injective_iff.mpr (fun _ _ h => Except.ok.inj h) hwhole
    have hshown : inLine Text.Utf8.replacement = true := by decide
    by_contra hcut
    have hlt := Text.Utf8.countP_flatten_lt hshown hcut
    rw [← countP_linesIn (decodeLossy _), ← countP_linesIn (cuts.flatMap _), hsame] at hlt
    exact Nat.lt_irrefl _ hlt
  · intro hintact
    rw [hlines, Text.Utf8.decodeLossy_flatten hintact]

/-- Cuts before a line feed, and after a whole character: no line shows them. -/
theorem lines_eq_whole_iff_between :
    let cuts : List (List UInt8) := [[0x61, 0x0D], [0x0A, 0xC3, 0xA9], [], [0x21]]
    let a : Answer := ⟨200, cuts.flatMap fun bytes => Chunk.frame ⟨.output, bytes⟩⟩
    a.Brings cuts ∧ Intact cuts ∧ linesOf "x" a = [.ok "a", .ok "é!"] := by
  intro cuts a
  have hbrings : a.Brings cuts :=
    (lines_eq_whole_iff "x" cuts).2 .output (by decide) (by decide)
  have hintact : Intact cuts := by decide
  have hwhole := ((lines_eq_whole_iff "x" cuts).1 a hbrings).2.mpr hintact
  refine ⟨hbrings, hintact, ?_⟩
  rw [hwhole]
  decide

/-- The same bytes of one output stream, in two chunks and in one: a character that is cut gives two
replacement characters. -/
theorem not_lines_eq_severed :
    ¬ ∀ (cuts cuts' : List (List UInt8)), cuts.flatten = cuts'.flatten →
      linesOf "x" ⟨200, cuts.flatMap fun bytes => Chunk.frame ⟨.output, bytes⟩⟩ =
        linesOf "x" ⟨200, cuts'.flatMap fun bytes => Chunk.frame ⟨.output, bytes⟩⟩ := by
  intro h
  have hsame := h [[0xC3], [0xA9, 0x0A]] [[0xC3, 0xA9, 0x0A]] rfl
  revert hsame
  decide

end NodeStack.Engine
