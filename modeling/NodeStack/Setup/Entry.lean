import NodeStack.Dict
import NodeStack.Text.Blank
import NodeStack.Text.Split
import NodeStack.Json.Basic

/-!
# `NodeStack.Setup.Entry`: what a line of the setup log says

- `Progress`: how far the setup has come.
- `Entry`: a status of the setup, with details while light clients synchronise.
- `Entry.ofLine?`: the progress and the entry a log line announces.

A line with the light-client mark counts as such, whatever else it holds. Of several phases in one
line the first in the order of `phases` counts.
-/

set_option autoImplicit false

namespace NodeStack.Setup

/-- How far the setup has come. -/
inductive Progress where
  /-- No log has been seen. -/
  | unknown
  /-- The setup is under way. -/
  | setup
  /-- The log is followed and the setup is not under way, or done. -/
  | attached
  deriving Repr, DecidableEq, Inhabited

/-- The name of a progress. -/
def Progress.name : Progress → String
  | .unknown => "unknown"
  | .setup => "setup"
  | .attached => "attached"

/-- A status of the setup. -/
structure Entry where
  /-- What the setup is doing. -/
  status : String
  /-- Figures of the light clients, while they synchronise. -/
  details : Option (Dict String)
  deriving Repr, DecidableEq

namespace Entry

/-- A status without details. -/
def plain (status : String) : Entry := ⟨status, none⟩

/-- The status of a setup that is done. -/
def doneText : String := "Done"

/-- Whether the entry says that the setup is done. -/
def isDone (e : Entry) : Bool := e.status == doneText

/-- The phases a log line can announce. -/
def phases : List String :=
  ["Waiting for XUD dependencies to be ready", "Setup wallets", "Create wallets",
   "Restore wallets", "Setup backup location", "Unlock wallets"]

/-- The text in front of the figures of the light clients. -/
def lightMark : String := " [LightSync] "

/-- What a figure is separated from the next by. -/
def figureGap : String := " | "

/-- What stands between the name of a figure and its value. -/
def figureMark : String := ": "

/-- The text of a log line that ends the setup. -/
def endMark : String := "Start shell"

/-- A figure: a name and a value, without the white space around them. -/
def figure? (piece : List Char) : Option (String × String) :=
  (Text.cut? figureMark.toList piece).map fun (name, value) =>
    (String.ofList (Text.trimChars name), String.ofList (Text.trimChars value))

/-- The figures behind the mark. Pieces that are no figures are passed over. -/
def figures (cs : List Char) : Dict String :=
  Dict.ofPairs ((Text.pieces figureGap.toList cs).filterMap figure?)

/-- The progress and the entry a log line announces, if any. -/
def ofLine? (line : String) : Option (Progress × Entry) :=
  match Text.cut? lightMark.toList line.toList with
  | some (_, rest) => some (.setup, ⟨"Syncing light clients", some (figures rest)⟩)
  | none =>
    if Text.contains line endMark then some (.attached, plain doneText)
    else (phases.find? (Text.contains line)).map fun phase => (.setup, plain phase)

/-- The entry as a JSON value. -/
def json (e : Entry) : Json :=
  Json.ofMembers
    [("status", .str e.status),
     ("details",
      match e.details with
      | none => .null
      | some d => Json.ofMembers (d.map fun (k, v) => (k, .str v)))]

end Entry

end NodeStack.Setup
