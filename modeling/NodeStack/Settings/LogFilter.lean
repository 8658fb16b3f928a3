import NodeStack.Text.Blank
import NodeStack.Text.Digits
import NodeStack.Text.Letter
import NodeStack.Text.Split

/-!
# `NodeStack.Settings.LogFilter`: which log entries are written

- `isLevel`: the levels of log entries.
- `isDirective`: which entries of a part of the program are written, `gateway=debug`.
- `isFilter`: directives with commas between them.

A directive is a level, a target, or a target with a level. A span in brackets may stand before the
level, and fields in braces within it.
-/

set_option autoImplicit false

namespace NodeStack.Settings.LogFilter

/-- The names of the levels. -/
def levels : List String := ["error", "warn", "info", "debug", "trace", "off"]

/-- Whether a text is a level: a name in any case, a number up to five, or nothing. -/
def isLevel (cs : List Char) : Bool :=
  cs.isEmpty || (Text.natural? 10 6 cs).isSome ||
    levels.contains (String.ofList (cs.map Char.toLower))

/-- Where a reader stands in a directive. -/
inductive State where
  | start
  /-- In what is a level or a target. -/
  | front
  | span
  /-- In a field, with so many characters of it read. -/
  | field (length : Nat)
  /-- After the fields. -/
  | fields
  /-- After the span. -/
  | target
  | level (reversed : List Char)
  deriving Repr, DecidableEq

/-- Where a reader stands after the next character. -/
def State.step : State → Char → Option State
  | .start, c =>
    if c = '[' then some .span
    else if ['-', ':', '_'].contains c || Text.isLetter c then some .front
    else none
  | .front, c => some (if c = '=' then .level [] else if c = '[' then .span else .front)
  | .span, c => some (if c = ']' then .target else if c = '\x7b' then .field 0 else .span)
  | .field n, c =>
    if c = '\x7d' then (if n = 0 then none else some .fields) else some (.field (n + 1))
  | .fields, c => if c = ']' then some .target else none
  | .target, c => if c = '=' then some (.level []) else none
  | .level reversed, c => some (.level (c :: reversed))

/-- Whether a directive can end there. A level has no blanks around its directive. -/
def State.isEnd (isTrimmed : Bool) : State → Bool
  | .front | .target => true
  | .level reversed => isTrimmed && isLevel reversed.reverse
  | _ => false

/-- Whether a text is a directive. -/
def isDirective (cs : List Char) : Bool :=
  let trimmed := Text.trimChars cs
  match trimmed.foldlM State.step .start with
  | some s => s.isEnd (trimmed = cs)
  | none => false

/-- Whether a text is a filter; empty directives do not count. -/
def isFilter (text : String) : Bool :=
  (Text.pieces [','] text.toList).all fun cs => cs.isEmpty || isDirective cs

end NodeStack.Settings.LogFilter
