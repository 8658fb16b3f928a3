import NodeStack.Dict
import NodeStack.Text.Blank
import NodeStack.Text.Letter
import NodeStack.Text.Split

/-!
# `NodeStack.Settings.Variables`: a file of variables

- `Scan.lines`: the lines of a file; a line goes on while a quote is open.
- `value?`: the value that is written after an equal sign: quotes, escapes and other variables.
- `assignment?`: the name and the value of a line.
- `readFile`: the variables of a surrounding, with those of a file put beside them.

A file is read up to its first bad line. A variable that is there already is not changed.
-/

set_option autoImplicit false

namespace NodeStack.Settings.Variables

/-! ### Lines -/

/-- Where a reader stands inside a line. -/
inductive Scan where
  /-- Outside quotes, at a point where a line can end. -/
  | plain
  /-- After a backslash outside quotes. -/
  | escape
  | single
  | singleEscape
  | double
  | doubleEscape
  /-- After a blank outside quotes, where a comment can begin. -/
  | blank
  deriving Repr, DecidableEq

namespace Scan

/-- What a character opens outside quotes. -/
def opens (c : Char) : Scan :=
  if c = '\\' then .escape else if c = '"' then .double else if c = '\'' then .single else .plain

/-- Where a reader stands after a character; nothing if a comment begins with it. -/
def step : Scan → Char → Option Scan
  | .blank, c => if c = '#' then none else some (opens c)
  | .escape, _ => some .plain
  | .plain, c =>
    some (if Text.isBlank c && c != '\n' && c != '\r' then .blank else opens c)
  | .double, c => some (if c = '\\' then .doubleEscape else if c = '"' then .plain else .double)
  | .doubleEscape, _ => some .double
  | .single, c => some (if c = '\\' then .singleEscape else if c = '\'' then .plain else .single)
  | .singleEscape, _ => some .single

/-- Where a reader stands after some characters, and those before a comment if one begins. -/
def run : Scan → (reversed : List Char) → List Char → Scan × Option (List Char)
  | s, _, [] => (s, none)
  | s, reversed, c :: cs =>
    match s.step c with
    | some s => run s (c :: reversed) cs
    | none => (s, some reversed.reverse)

end Scan

/-- The stretches of a text up to each line feed, the line feeds included. -/
def stretches : (reversed : List Char) → List Char → List (List Char)
  | [], [] => []
  | reversed, [] => [reversed.reverse]
  | reversed, '\n' :: cs => ('\n' :: reversed).reverse :: stretches [] cs
  | reversed, c :: cs => stretches (c :: reversed) cs

/-- A text without a line feed at its end, and without a carriage return before that. -/
def dropEnd (cs : List Char) : List Char :=
  match cs.reverse with
  | '\n' :: '\r' :: rest => rest.reverse
  | '\n' :: rest => rest.reverse
  | _ => cs

/-- The lines that some stretches make up. The last one is missing if the text ends inside of it. -/
def linesFrom : Scan → (held : List Char) → List (List Char) → List (Option (List Char))
  | .plain, _, [] => []
  | _, _, [] => [none]
  | s, held, stretch :: rest =>
    let line := held ++ stretch
    if (line.dropWhile Text.isBlank).head? = some '#' then some [] :: linesFrom .plain [] rest
    else
      match s.run [] stretch with
      | (_, some before) => some (held ++ before) :: linesFrom .plain [] rest
      | (.plain, none) => some (dropEnd line) :: linesFrom .plain [] rest
      | (s, none) => linesFrom s line rest

/-- The lines of a text. -/
def lines (cs : List Char) : List (Option (List Char)) := linesFrom .plain [] (stretches [] cs)

/-! ### Values -/

/-- What a reader of a value waits for. -/
inductive Mode where
  | plain
  /-- The value has ended, and only a comment may follow. -/
  | ended
  | single
  | double
  deriving Repr, DecidableEq

/-- The name of another variable that is being read. -/
inductive Name where
  | none
  /-- After a dollar sign. -/
  | bare (reversed : List Char)
  /-- After a dollar sign and a brace. -/
  | braced (reversed : List Char)
  deriving Repr, DecidableEq

/-- A reader of a value. -/
structure Reader where
  mode : Mode
  /-- The next character is escaped. -/
  escaped : Bool
  name : Name
  /-- The value so far, its last character first. -/
  reversed : List Char
  deriving Repr, DecidableEq

namespace Reader

/-- At the beginning of a value. -/
def start : Reader := ⟨.plain, false, .none, []⟩

/-- After one more character of the value. -/
def push (r : Reader) (c : Char) : Reader := { r with reversed := c :: r.reversed }

/-- After another variable, which has been named. -/
def substitute (known : String → String) (name : List Char) (r : Reader) : Reader :=
  { r with
    name := .none
    reversed := (known (String.ofList name.reverse)).toList.reverse ++ r.reversed }

/-- The characters that an escape stands for. -/
def escape? (c : Char) : Option Char :=
  if c = 'n' then some '\n'
  else if ['\\', '\'', '"', '$', ' '].contains c then some c
  else none

/-- Goes on with a character outside names. -/
def stepPlain (r : Reader) (c : Char) : Reader :=
  if c = '$' then { r with name := .bare [] }
  else
    match r.mode with
    | .double =>
      if c = '"' then { r with mode := .plain }
      else if c = '\\' then { r with escaped := true }
      else r.push c
    | _ =>
      if c = '\'' then { r with mode := .single }
      else if c = '"' then { r with mode := .double }
      else if c = '\\' then { r with escaped := true }
      else if c = ' ' || c = '\t' then { r with mode := .ended }
      else r.push c

/-- Goes on with a character in the name of another variable. -/
def stepName (known : String → String) (r : Reader) (c : Char) : Reader :=
  match r.name with
  | .none => r
  | .bare name =>
    if Text.isLetter c then { r with name := .bare (c :: name) }
    else if c = '\x7b' && name.isEmpty then { r with name := .braced [] }
    else
      let r := r.substitute known name
      if c = '$' then { r with name := .bare [] } else r.push c
  | .braced name =>
    if c = '\x7d' then r.substitute known name else { r with name := .braced (c :: name) }

/-- Goes on with a character; nothing if it cannot stand there, and an end if a comment begins. -/
def step (known : String → String) (r : Reader) (c : Char) :
    Option (Reader × Bool) :=
  if r.mode = .ended then
    if c = ' ' || c = '\t' then some (r, false) else if c = '#' then some (r, true) else none
  else if r.escaped then
    (escape? c).map fun c => ({ r.push c with escaped := false }, false)
  else if r.mode = .single then
    some (if c = '\'' then { r with mode := .plain } else r.push c, false)
  else if r.name = .none then some (r.stepPlain c, false)
  else some (r.stepName known c, false)

/-- Reads a value to its end. -/
def run (known : String → String) : Reader → List Char → Option Reader
  | r, [] => some r
  | r, c :: cs =>
    match r.step known c with
    | none => none
    | some (r, true) => some r
    | some (r, false) => run known r cs

/-- The value that has been read; nothing if a quote or a brace is open. -/
def finish? (known : String → String) (r : Reader) : Option String :=
  match r.mode, r.name with
  | .single, _ | .double, _ | _, .braced _ => none
  | _, .bare name => some (String.ofList (r.substitute known name).reversed.reverse)
  | _, .none => some (String.ofList r.reversed.reverse)

end Reader

/-- The value that is written after an equal sign. -/
def value? (known : String → String) (cs : List Char) : Option String :=
  (Reader.run known Reader.start cs).bind (Reader.finish? known)

/-! ### Assignments -/

/-- Whether a character can begin the name of a variable. -/
def isHead (c : Char) : Bool := c.isAlpha || c = '_'

/-- Whether a character can stand in the name of a variable. -/
def isTail (c : Char) : Bool := c.isAlphanum || c = '_' || c = '.'

/-- The name at the beginning of a line, and what follows it and the blanks after it. -/
def name? (cs : List Char) : Option (List Char × List Char) :=
  let name := cs.takeWhile isTail
  if cs.head?.any isHead then some (name, (cs.drop name.length).dropWhile Text.isBlank) else none

/-- The name at the beginning of a line, and what follows its equal sign. The word `export` may
stand before the name. -/
def target? (cs : List Char) : Option (List Char × List Char) := do
  match ← name? cs with
  | (name, '=' :: rest) => pure (name, rest)
  | (name, rest) =>
    if name = "export".toList then
      match ← name? rest with
      | (name, '=' :: rest) => pure (name, rest)
      | _ => none
    else none

/-- What a line says: nothing, or the value of a variable; or it is bad. -/
def assignment? (known : String → String) (line : List Char) : Option (Option (String × String)) :=
  match (Text.trimEnd Text.isBlank line).dropWhile Text.isBlank with
  | [] | '#' :: _ => some none
  | line => do
    let (name, rest) ← target? line
    let value ← match rest.dropWhile Text.isBlank with
      | [] | '#' :: _ => pure ""
      | rest => value? known rest
    pure (some (String.ofList name, value))

/-- Variables after some lines: `file` holds what the file has said so far. -/
def readLines : List (Option (List Char)) → (file env : Dict String) → Dict String
  | [], _, env => env
  | none :: _, _, env => env
  | some line :: rest, file, env =>
    let known (name : String) : String :=
      (env.get? name).getD ((file.get? name).getD "")
    match assignment? known line with
    | none => env
    | some none => readLines rest file env
    | some (some (name, value)) =>
      let env :=
        if (env.get? name).isSome then env else env.put name value
      readLines rest (file.put name value) env

/-- The mark that may stand at the beginning of a file. -/
def dropMark : List Char → List Char
  | c :: cs => if c = Char.ofNat 0xFEFF then cs else c :: cs
  | [] => []

/-- Variables, with those of a file put beside them. -/
def readFile (text : List Char) (env : Dict String) : Dict String :=
  readLines (lines (dropMark text)) [] env

end NodeStack.Settings.Variables
