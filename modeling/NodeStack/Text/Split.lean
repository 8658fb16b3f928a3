/-!
# `NodeStack.Text.Split`: cutting a text at a separator

- `cut?`: the parts before and after the first occurrence of a separator.
- `pieces`: all the parts between the occurrences of a separator, left to right.
- `holds`: whether a text occurs in another.
- `lines`: the lines of a text; a line feed ends a line, and a carriage return before it goes too.
-/

set_option autoImplicit false

namespace NodeStack.Text

/-- What follows `start` at the beginning of `cs`, if `cs` begins with it. -/
def after? : (start cs : List Char) → Option (List Char)
  | [], cs => some cs
  | _ :: _, [] => none
  | s :: start, c :: cs => if s = c then after? start cs else none

/-- The parts before and after the first occurrence of `sep`. -/
def cut? (sep : List Char) : List Char → Option (List Char × List Char)
  | [] => if sep.isEmpty then some ([], []) else none
  | c :: cs =>
    match after? sep (c :: cs) with
    | some rest => some ([], rest)
    | none => (cut? sep cs).map fun (before, rest) => (c :: before, rest)

theorem length_of_after? {start cs rest : List Char} (h : after? start cs = some rest) :
    cs.length = start.length + rest.length := by
  induction start generalizing cs with
  | nil => simp_all [after?]
  | cons s start ih =>
    cases cs with
    | nil => simp [after?] at h
    | cons c cs =>
      simp only [after?] at h
      split at h
      · simp only [List.length_cons, ih h]; omega
      · simp at h

theorem length_of_cut? {sep cs before rest : List Char} (h : cut? sep cs = some (before, rest)) :
    cs.length = before.length + sep.length + rest.length := by
  induction cs generalizing before with
  | nil =>
    simp only [cut?] at h
    split at h
    · simp_all
    · simp at h
  | cons c cs ih =>
    simp only [cut?] at h
    split at h
    · next rest' hr =>
      simp only [Option.some.injEq, Prod.mk.injEq] at h
      obtain ⟨rfl, rfl⟩ := h
      simp [length_of_after? hr]
    · simp only [Option.map_eq_some_iff, Prod.mk.injEq] at h
      obtain ⟨⟨b, r⟩, hb, rfl, rfl⟩ := h
      simp only [List.length_cons, ih hb]
      omega

/-- The parts of a text between the occurrences of a separator, found left to right. An empty
separator cuts nothing. -/
def pieces (sep cs : List Char) : List (List Char) :=
  if _ : sep = [] then [cs]
  else
    match _ : cut? sep cs with
    | none => [cs]
    | some (before, rest) => before :: pieces sep rest
termination_by cs.length
decreasing_by
  have := length_of_cut? ‹_›
  have : sep.length ≠ 0 := by simpa using ‹¬ sep = []›
  omega

/-- Whether `needle` occurs in the text. -/
def holds (needle cs : List Char) : Bool :=
  (cut? needle cs).isSome

/-- A line without the carriage return at its end, if there is one. -/
def dropReturn (line : List Char) : List Char :=
  match line.reverse with
  | '\r' :: rest => rest.reverse
  | _ => line

/-- The lines of a text. What follows the last line feed is a line if it is not empty, and keeps
its carriage return. -/
def linesFrom : (current : List Char) → List Char → List (List Char)
  | [], [] => []
  | c :: current, [] => [(c :: current).reverse]
  | current, '\n' :: cs => dropReturn current.reverse :: linesFrom [] cs
  | current, c :: cs => linesFrom (c :: current) cs

/-- The lines of a text. -/
def lines (cs : List Char) : List (List Char) :=
  linesFrom [] cs

/-- Whether `needle` occurs in `s`. -/
def contains (s needle : String) : Bool :=
  holds needle.toList s.toList

/-- The texts joined with a separator between them. -/
def joinWith (sep : String) (parts : List String) : String :=
  String.intercalate sep parts

end NodeStack.Text
