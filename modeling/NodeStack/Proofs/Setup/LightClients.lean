import Mathlib.Data.List.Induction
import NodeStack.Proofs.Setup.Entry
import NodeStack.Proofs.Text.Split

/-!
# `NodeStack.Proofs.Setup.LightClients`: the figures of light clients in a log line

A launcher writes the figures of the light clients behind a mark, as `Piece`s with a gap between
each and the next: figures, each a name and a value, and remarks. A fair piece (`Piece.Fair`) has no
bar in it, since bars are what gaps are told by; a figure has no colon in its name and no white space
around its texts, and a remark does not look like a figure.

* `Dict.get?_ofPairs`: of several values of one name a dictionary has the last.
* `Piece.figure?_text`: of a fair piece, the text says what figure it is, if it is one.
* `figures_joined`: so the figures behind a mark are those of the pieces.
* `ofLine?_of_marked`: what stands before the mark first counts for nothing.
* `lightClients_told`: a line announces the figures that were written into it, whatever phases and
  ends of the setup are named in it.
-/

set_option autoImplicit false

namespace NodeStack

/-- Of several values of one name the last counts. -/
theorem Dict.get?_ofPairs {α : Type} (pairs : List (String × α)) (name : String) :
    get? name (ofPairs pairs) = get? name pairs.reverse := by
  induction pairs using List.reverseRecOn with
  | nil => rfl
  | append_singleton pairs entry ih =>
    obtain ⟨n, v⟩ := entry
    have hput : ofPairs (pairs ++ [(n, v)]) = put n v (ofPairs pairs) := List.foldl_append
    rw [hput, List.reverse_append, List.reverse_singleton, List.singleton_append, get?_cons]
    split
    · next h => rw [h, get?_put_self]
    · next h => rw [get?_put_other h, ih]

namespace Setup

open Text (Trimmed)

/-! ### Pieces of a line -/

/-- A piece of what a launcher writes behind the mark of the light clients. -/
inductive Piece where
  /-- A figure, with its name. -/
  | figure (name value : String)
  /-- Anything else. -/
  | remark (text : String)

namespace Piece

/-- The text of a piece. -/
def text : Piece → String
  | .figure name value => name ++ Entry.figureMark ++ value
  | .remark text => text

/-- The figure that a piece is, if it is one. -/
def figure? : Piece → Option (String × String)
  | .figure name value => some (name, value)
  | .remark _ => none

/-- The piece can be told from the others, and its name from its value. -/
def Fair : Piece → Prop
  | .figure name value =>
    Trimmed name.toList ∧ Trimmed value.toList ∧
      '|' ∉ name.toList ∧ '|' ∉ value.toList ∧ ':' ∉ name.toList
  | .remark text => '|' ∉ text.toList ∧ ∀ b r, text.toList ≠ b ++ Entry.figureMark.toList ++ r

theorem bar_not_mem {piece : Piece} (h : piece.Fair) : '|' ∉ piece.text.toList := by
  cases piece with
  | figure name value =>
    obtain ⟨-, -, hname, hvalue, -⟩ := h
    have hmark : '|' ∉ Entry.figureMark.toList := by decide
    simp [text, hname, hvalue, hmark]
  | remark text => exact h.1

/-- The text of a fair piece says what figure it is, if it is one. -/
theorem figure?_text {piece : Piece} (h : piece.Fair) :
    Entry.figure? piece.text.toList = piece.figure? := by
  cases piece with
  | figure name value =>
    obtain ⟨hname, hvalue, -, -, hcolon⟩ := h
    have hcut : Text.cut? Entry.figureMark.toList (text (.figure name value)).toList =
        some (name.toList, value.toList) := by
      rw [text, String.toList_append, String.toList_append]
      exact Text.cut?_of_marked hcolon List.not_mem_nil value.toList
    simp only [Entry.figure?, hcut, Option.map_some, Text.trimChars_of_trimmed hname,
      Text.trimChars_of_trimmed hvalue, String.ofList_toList, figure?]
  | remark text =>
    have hcut : Text.cut? Entry.figureMark.toList text.toList = none :=
      Text.cut?_eq_none_iff.mpr h.2
    show Entry.figure? text.toList = none
    rw [Entry.figure?, hcut, Option.map_none]

end Piece

/-! ### Lines -/

/-- The text behind the mark: the pieces with a gap between each and the next. -/
def joined (pieces : List Piece) : String :=
  Text.joinWith Entry.figureGap (pieces.map Piece.text)

/-- Without pieces nothing is behind the mark, and else just the pieces are. -/
theorem pieces_joined {pieces : List Piece} (h : ∀ piece ∈ pieces, piece.Fair) :
    Text.pieces Entry.figureGap.toList (joined pieces).toList =
      if pieces = [] then [[]] else pieces.map fun piece => piece.text.toList := by
  have hbars : ∀ part ∈ pieces.map fun piece => piece.text.toList, '|' ∉ part := by
    intro part hpart
    obtain ⟨piece, hpiece, rfl⟩ := List.mem_map.mp hpart
    exact Piece.bar_not_mem (h piece hpiece)
  have hlead : '|' ∉ [' '] := by decide
  have htexts : (joined pieces).toList =
      Entry.figureGap.toList.intercalate (pieces.map fun piece => piece.text.toList) := by
    rw [joined, Text.joinWith, String.toList_intercalate, List.map_map]
    rfl
  rw [htexts]
  split
  · next hnil =>
    subst hnil
    exact Text.pieces_of_uncut (by decide)
  · next hne =>
    exact Text.pieces_intercalate (by simpa using hne) hlead hbars

/-- The figures of the pieces are what is read from their text. -/
theorem figures_joined {pieces : List Piece} (h : ∀ piece ∈ pieces, piece.Fair) :
    Entry.figures (joined pieces).toList = Dict.ofPairs (pieces.filterMap Piece.figure?) := by
  rw [Entry.figures, pieces_joined h]
  split
  · next hnil =>
    subst hnil
    decide
  · have hread : ∀ piece ∈ pieces, Entry.figure? piece.text.toList = piece.figure? :=
      fun piece hp => Piece.figure?_text (h piece hp)
    rw [List.filterMap_map]
    exact congrArg Dict.ofPairs (List.filterMap_congr hread)

/-- What stands before the first mark counts for nothing. -/
theorem ofLine?_of_marked {line : String} {before rest : List Char}
    (h : line.toList = before ++ Entry.lightMark.toList ++ rest)
    (hfirst : ∀ b r, line.toList = b ++ Entry.lightMark.toList ++ r → before.length ≤ b.length) :
    Entry.ofLine? line =
      some (.setup, ⟨"Syncing light clients", some (Entry.figures rest)⟩) := by
  rw [Entry.ofLine?, Text.cut?_eq_some_iff.mpr ⟨h, hfirst⟩]

/-- Behind the first mark in a line, a launcher has written the text of some fair pieces, with a gap
between each and the next. Then the line announces that light clients synchronise, with details that
have just the names of the figures among the pieces, each once and in order, and with each the value
that was written last. It does so whatever stands before the mark and in the pieces, such as the name
of a phase or the end of the setup. -/
theorem lightClients_told (before : String) (pieces : List Piece)
    (hfair : ∀ piece ∈ pieces, piece.Fair)
    (hfirst : ∀ b r, (before ++ Entry.lightMark ++ joined pieces).toList =
      b ++ Entry.lightMark.toList ++ r → before.toList.length ≤ b.length) :
    ∃ details, Entry.ofLine? (before ++ Entry.lightMark ++ joined pieces) =
        some (.setup, ⟨"Syncing light clients", some details⟩) ∧
      Dict.Ordered details ∧
      ∀ name, Dict.get? name details =
        Dict.get? name (pieces.filterMap Piece.figure?).reverse := by
  have hline : (before ++ Entry.lightMark ++ joined pieces).toList =
      before.toList ++ Entry.lightMark.toList ++ (joined pieces).toList := by
    rw [String.toList_append, String.toList_append]
  refine ⟨_, ofLine?_of_marked hline hfirst, ?_, fun name => ?_⟩
  · exact Dict.ordered_ofPairs _
  · rw [figures_joined hfair]
    exact Dict.get?_ofPairs _ name

/-- The end of the setup and the name of a phase stand in a line, before the mark and in a figure.
One name is written twice, one value has a colon in it, and one remark looks much like a figure. -/
theorem lightClients_told_repeated :
    let pieces : List Piece := [.figure "bitcoind" "1.00%", .remark "litecoind:", .remark "",
      .figure "Setup wallets" "done: [LightSync] 2", .figure "bitcoind" "99.50%"]
    ((∀ piece ∈ pieces, piece.Fair) ∧
      ∀ b r, ("Start shell" ++ Entry.lightMark ++ joined pieces).toList =
        b ++ Entry.lightMark.toList ++ r → "Start shell".toList.length ≤ b.length) ∧
    ∃ details, Entry.ofLine? ("Start shell" ++ Entry.lightMark ++ joined pieces) =
        some (.setup, ⟨"Syncing light clients", some details⟩) ∧
      Dict.Ordered details ∧
      ∀ name, Dict.get? name details = Dict.get? name [("bitcoind", "99.50%"),
        ("Setup wallets", "done: [LightSync] 2"), ("bitcoind", "1.00%")] := by
  intro pieces
  have hremark : ∀ text : String, '|' ∉ text.toList →
      Text.cut? Entry.figureMark.toList text.toList = none → Piece.Fair (.remark text) :=
    fun text hbar hcut => ⟨hbar, Text.cut?_eq_none_iff.mp hcut⟩
  have htrimmed : ∀ text ∈ ["bitcoind", "1.00%", "Setup wallets", "done: [LightSync] 2", "99.50%"],
      Text.Trimmed text.toList := by
    simp only [List.forall_mem_cons, List.not_mem_nil, false_imp_iff, implies_true, and_true]
    refine ⟨⟨?_, ?_⟩, ⟨?_, ?_⟩, ⟨?_, ?_⟩, ⟨?_, ?_⟩, ⟨?_, ?_⟩⟩ <;> rintro _ ⟨⟩ <;> decide
  have hfair : ∀ piece ∈ pieces, piece.Fair := by
    intro piece hp
    simp only [pieces, List.mem_cons, List.not_mem_nil, or_false] at hp
    rcases hp with rfl | rfl | rfl | rfl | rfl
    · exact ⟨htrimmed _ (by simp), htrimmed _ (by simp), by decide, by decide, by decide⟩
    · exact hremark _ (by decide) (by decide)
    · exact hremark _ (by decide) (by decide)
    · exact ⟨htrimmed _ (by simp), htrimmed _ (by simp), by decide, by decide, by decide⟩
    · exact ⟨htrimmed _ (by simp), htrimmed _ (by simp), by decide, by decide, by decide⟩
  have hcut : Text.cut? Entry.lightMark.toList
      ("Start shell" ++ Entry.lightMark ++ joined pieces).toList =
        some ("Start shell".toList, (joined pieces).toList) := by decide
  have hfirst := (Text.cut?_eq_some_iff.mp hcut).2
  exact ⟨⟨hfair, hfirst⟩, lightClients_told "Start shell" pieces hfair hfirst⟩

end Setup

end NodeStack
