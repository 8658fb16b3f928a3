import NodeStack.Setup.Journal
import NodeStack.Text.Utf8

/-!
# `NodeStack.Setup.Log`: the journal of a log file that is followed

- `tailLines`: the last lines of a file, which is where the following begins.
- `Journal.attach`: the log is followed.
- `Journal.readLines`: takes in lines up to the first that is no text.
-/

set_option autoImplicit false

namespace NodeStack.Setup

/-- How many lines at the end of the file are read when the following begins. -/
def tailLimit : Nat := 10

/-- The lines of some bytes, each ended by a line feed; what follows the last one is no line yet. -/
def byteLines : (reversed : List UInt8) → List UInt8 → List (List UInt8)
  | _, [] => []
  | line, b :: rest =>
    if b = 10 then line.reverse :: byteLines [] rest else byteLines (b :: line) rest

/-- The last lines of a file. -/
def tailLines (bytes : List UInt8) : List (List UInt8) := lastOf tailLimit (byteLines [] bytes)

/-- A line without the carriage return at its end. -/
def dropReturn (line : List UInt8) : List UInt8 :=
  match line.reverse with
  | 13 :: rest => rest.reverse
  | _ => line

namespace Journal

/-- The log is followed. -/
def attach (j : Journal) : Journal := { j with progress := .attached }

/-- Takes in lines up to the first that is no text. -/
def readLines : List (List UInt8) → Journal → Journal
  | [], j => j
  | line :: rest, j =>
    match Text.Utf8.decode? line with
    | some _ =>
      readLines rest (j.line (String.ofList (Text.Utf8.decodeLossy (dropReturn line))))
    | none => j

/-- The journal of a log file that is followed from now on. -/
def ofLog (bytes : List UInt8) : Journal := readLines (tailLines bytes) empty.attach

/-- Whether the setup was done at some point that is still kept. -/
def isDone (j : Journal) : Bool := j.history.any (·.isDone)

end Journal

end NodeStack.Setup
