import NodeStack.Engine.Fault

/-!
# `NodeStack.Engine.LogLines`: log text into lines

- `feed`: the lines that a piece of text completes, and what is left of it.
- `logLines`: the lines of a log that comes in pieces, and the fault that ends it, if one does.

A line ends with a line feed; the carriage returns right before it go too. What follows the last
line feed is a line of its own when the log ends well, and is lost when it fails.
-/

set_option autoImplicit false

namespace NodeStack.Engine

/-- A line without the carriage returns at its end, from its characters in reverse. -/
def closeLine (reversed : List Char) : String :=
  String.ofList (reversed.dropWhile (· = '\r')).reverse

/-- The lines that a piece of text completes, and what is left. What was left before comes first,
and both it and the result are in reverse. -/
def feed : (reversed : List Char) → (piece : List Char) → List String × List Char
  | pending, [] => ([], pending)
  | pending, c :: rest =>
    if c = '\n' then
      let (lines, left) := feed [] rest
      (closeLine pending :: lines, left)
    else feed (c :: pending) rest

/-- The lines of a log from the next piece on. -/
def logLinesFrom (ending : Option Fault) :
    (reversed : List Char) → List (List Char) → List (Except Fault String)
  | pending, [] =>
    match ending with
    | some fault => [.error fault]
    | none => if pending.isEmpty then [] else [.ok (String.ofList pending.reverse)]
  | pending, piece :: rest =>
    let (lines, left) := feed pending piece
    lines.map .ok ++ logLinesFrom ending left rest

/-- The lines of a log that comes in pieces, and the fault that ends it, if one does. -/
def logLines (ending : Option Fault) (pieces : List (List Char)) : List (Except Fault String) :=
  logLinesFrom ending [] pieces

end NodeStack.Engine
