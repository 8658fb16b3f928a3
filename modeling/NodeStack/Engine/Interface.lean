import NodeStack.Engine.Event
import NodeStack.Engine.Fault
import NodeStack.Engine.Inspect
import NodeStack.Engine.LogLines
import NodeStack.Engine.Multiplex
import NodeStack.Engine.Since
import NodeStack.Json.Tree
import NodeStack.Plan
import NodeStack.Text.Utf8

/-!
# `NodeStack.Engine.Interface`: talking to a container engine

- `Call`: what can be asked of an engine, with the request each call sends.
- `Answer`: a status and a body; `Answer.accepted?` turns an error status into a fault.
- `ping`, `inspect`, `logs`, `events`, `exec`, `execInteractive`: the operations, as plans
  over calls.
-/

set_option autoImplicit false

namespace NodeStack.Engine

/-- Which part of a log is asked for. -/
structure LogRange where
  /-- Where to begin, as text. -/
  since : Option String
  /-- How many lines from the end, as text. -/
  tail : Option String
  /-- Go on as lines are added. -/
  follow : Bool
  deriving Repr, DecidableEq

/-- What a command put out, and how it ended. -/
structure ExecResult where
  output : String
  exitCode : Int
  deriving Repr, DecidableEq

/-- Whether a command ended well. -/
def ExecResult.success (r : ExecResult) : Bool := r.exitCode == 0

/-- What can be asked of an engine. -/
inductive Call where
  | ping
  | inspect (name : String)
  /-- The log of a container, from a second the engine takes. -/
  | logs (name : String) (since : Int) (tail : String) (follow : Bool)
  | events (since : Option Int)
  /-- Prepares a command, for a terminal or not. -/
  | createExec (name : String) (command : List String) (terminal : Bool)
  | startExec (id : String) (terminal : Bool)
  | inspectExec (id : String)
  deriving Repr, DecidableEq

namespace Call

/-- The method of a call's request. -/
def method : Call → String
  | .createExec .. | .startExec .. => "POST"
  | _ => "GET"

/-- The path of a call's request. -/
def path : Call → String
  | .ping => "/_ping"
  | .inspect name => s!"/containers/{name}/json"
  | .logs name .. => s!"/containers/{name}/logs"
  | .events _ => "/events"
  | .createExec name .. => s!"/containers/{name}/exec"
  | .startExec id _ => s!"/exec/{id}/start"
  | .inspectExec id => s!"/exec/{id}/json"

/-- A truth value in a request. -/
def flagText (b : Bool) : String := if b then "true" else "false"

/-- What the events asked for are narrowed to: containers, and the actions of interest. -/
def eventFilters : Json :=
  Json.ofMembers [("type", Json.ofTexts ["container"]), ("event", Json.ofTexts EventKind.actions)]

/-- The parameters of a call's request. -/
def query : Call → List (String × Json)
  | .logs _ since tail follow =>
    [("follow", .str (flagText follow)), ("stdout", .str "true"), ("stderr", .str "true"),
     ("since", .str (toString since)), ("until", .str "0"), ("timestamps", .str "false"),
     ("tail", .str tail)]
  | .events since =>
    ("filters", eventFilters) ::
      (match since with
       | some s => [("since", .str (toString s))]
       | none => [])
  | _ => []

/-- The body of a call's request. -/
def body : Call → Option Json
  | .createExec _ command terminal =>
    some (Json.ofMembers
      [("AttachStdin", .bool terminal), ("AttachStdout", .bool true), ("AttachStderr", .bool true),
       ("Tty", .bool terminal), ("Cmd", Json.ofTexts command)])
  | .startExec _ terminal =>
    some (Json.ofMembers [("Detach", .bool false), ("Tty", .bool terminal)])
  | _ => none

end Call

/-- An engine's answer. -/
structure Answer where
  status : Nat
  body : List UInt8
  deriving Repr, DecidableEq

namespace Answer

/-- The text of the body. -/
def text (a : Answer) : List Char := Text.Utf8.decodeLossy a.body

/-- The body as a JSON value, if it is one. -/
def json? (a : Answer) : Option Json :=
  (Text.Utf8.decode? a.body).bind Json.ofChars?

/-- What an engine says about an error: the message member of a JSON body, or else the body. A body
that breaks off says nothing. -/
def refusal (a : Answer) : Fault :=
  let text := a.text
  if text.isEmpty then .refused a.status ""
  else if text.all Json.Tree.isGap then .unusable
  else
    match a.json?.bind fun v => (v.get? "message").text? with
    | some message => .refused a.status message
    | none => .refused a.status (String.ofList text)

/-- The answer, unless its status says that the call failed. -/
def accepted? (a : Answer) : Except Fault Answer :=
  if (200 ≤ a.status && a.status < 300) || a.status = 304 || a.status = 101 then .ok a
  else .error a.refusal

/-- The value that an accepted answer carries. -/
def read {α : Type} (read : Json → Option α) (a : Answer) : Except Fault α :=
  match a.accepted? with
  | .error fault => .error fault
  | .ok a =>
    match a.json?.bind read with
    | some value => .ok value
    | none => .error .unusable

end Answer

/-- A procedure that talks to an engine. -/
abbrev Talk := Plan Call fun _ => Answer

/-- Asks whether the engine is there. -/
def ping : Talk (Except Fault Unit) := do
  let a ← Plan.question .ping
  pure (a.accepted?.map fun _ => ())

/-- Asks about a container: its record, or nothing if there is no such container. -/
def inspect (name : String) : Talk (Except Fault (Option Record)) := do
  let a ← Plan.question (.inspect name)
  match a.read Record.ofDescription? with
  | .ok record => pure (.ok (some record))
  | .error fault =>
    match Fault.about name fault with
    | .containerNotFound _ => pure (.ok none)
    | other => pure (.error other)

/-- The pieces of text in an answer, one for each chunk, and the fault that ends them, if one
does. -/
def pieces (a : Answer) : List (List Char) × Option Fault :=
  let (cs, whole) := chunks false a.body
  (cs.map fun c => Text.Utf8.decodeLossy c.bytes, if whole then none else some .unusable)

/-- The lines of an answer about the log of a container. -/
def linesOf (name : String) (a : Answer) : List (Except Fault String) :=
  match a.accepted? with
  | .error fault => [.error (Fault.about name fault)]
  | .ok a =>
    let (texts, ending) := pieces a
    logLines ending texts

/-- Reads a part of a container's log, at the second `now`. A beginning that cannot be read is a
fault, and nothing is asked. -/
def logs (now : Int) (name : String) (range : LogRange) :
    Talk (Except Fault (List (Except Fault String))) :=
  match (range.since.map (since? now)).getD (.ok 0) with
  | .error fault => pure (.error fault)
  | .ok second => do
    let a ← Plan.question (.logs name (engineSecond second) (range.tail.getD "all") range.follow)
    pure (.ok (linesOf name a))

/-! ### Events -/

/-- The types of thing an event can be about. -/
def eventTypes : List String :=
  ["", "builder", "config", "container", "daemon", "image", "network", "node", "plugin", "secret",
   "service", "volume"]

/-- The scopes an event can have. -/
def eventScopes : List String := ["", "local", "swarm"]

/-- A text out of a list. -/
def oneOf? (allowed : List String) (v : Json) : Option String :=
  v.text?.filter (allowed.contains ·)

/-- Texts under names. -/
def textMembers? (v : Json) : Option (Dict String) :=
  v.members?.bind fun ms => ms.mapM fun (k, v) => v.text?.map fun t => (k, t)

/-- Who an event is about: an id, and attributes. -/
def actor? (v : Json) : Option (Option String × Option (Dict String)) := do
  let _ ← v.members?
  let id ← part? Json.text? v "ID"
  let attributes ← part? textMembers? v "Attributes"
  pure (id, attributes)

/-- An event of a message: nothing if the message cannot be read, and no event if it is of no
interest. -/
def eventOf? (v : Json) : Option (Option Event) := do
  let _ ← v.members?
  let _ ← part? (oneOf? eventTypes) v "Type"
  let action ← part? Json.text? v "Action"
  let actor ← part? actor? v "Actor"
  let _ ← part? (oneOf? eventScopes) v "scope"
  let _ ← part? Json.integer? v "time"
  let _ ← part? Json.integer? v "timeNano"
  pure do
    let kind ← EventKind.ofAction? (← action)
    let (id, attributes) ← actor
    let id ← id
    pure ⟨id, attributes.bind (Dict.get? "name"), kind⟩

/-- The events of messages, one a line, up to the first that cannot be read. -/
def eventsOfLines : List (List Char) → List (Except Fault Event)
  | [] => []
  | line :: rest =>
    match (Json.ofChars? line).bind eventOf? with
    | none => [.error .unusable]
    | some none => eventsOfLines rest
    | some (some event) => .ok event :: eventsOfLines rest

/-- The lines of a text that are not empty, a last one without line feed included. -/
def messageLines (cs : List Char) : List (List Char) :=
  (feed [] cs).1.map String.toList ++ [(feed [] cs).2.reverse].filter (!·.isEmpty)

/-- Reads the engine's events. -/
def events (since : Option Int) : Talk (List (Except Fault Event)) := do
  let a ← Plan.question (.events since)
  match a.accepted? with
  | .error fault => pure [.error fault]
  | .ok a => pure (eventsOfLines (messageLines a.text))

/-! ### Commands -/

/-- The id of a command. -/
def execId? (v : Json) : Option String := (v.get? "Id").text?

/-- The exit code of a command, if it has one. -/
def exitCode? (v : Json) : Option (Option Int) := do
  let _ ← v.members?
  part? Json.integer? v "ExitCode"

/-- Prepares a command in a container. -/
def createExec (name : String) (command : List String) (terminal : Bool) :
    Talk (Except Fault String) := do
  let a ← Plan.question (.createExec name command terminal)
  match a.read execId? with
  | .ok id => pure (.ok id)
  | .error fault => pure (.error (Fault.about name fault))

/-- Starts a command: the chunks it puts out, and whether they end well. -/
def startExec (id : String) (terminal : Bool) : Talk (Except Fault (List Chunk × Bool)) := do
  let a ← Plan.question (.startExec id terminal)
  pure (a.accepted?.map fun a => chunks true a.body)

/-- The text of chunks together. -/
def textOf (cs : List Chunk) : String :=
  String.ofList (Text.Utf8.decodeLossy (cs.flatMap (·.bytes)))

/-- What a command has put out: all but what was typed in. -/
def outputOf (cs : List Chunk) : String := textOf (cs.filter fun c => c.source != .input)

/-- Runs a command in a container to its end. A command without exit code counts as failed. -/
def exec (name : String) (command : List String) : Talk (Except Fault ExecResult) := do
  match ← createExec name command false with
  | .error fault => pure (.error fault)
  | .ok id =>
    match ← startExec id false with
    | .error fault => pure (.error fault)
    | .ok (_, false) => pure (.error .unusable)
    | .ok (cs, true) =>
      let a ← Plan.question (.inspectExec id)
      match a.read exitCode? with
      | .error fault => pure (.error fault)
      | .ok code => pure (.ok ⟨outputOf cs, code.getD (-1)⟩)

/-- A command that runs at a terminal. -/
structure ExecSession where
  id : String
  /-- The chunks it puts out. -/
  output : List Chunk
  /-- They end well. -/
  whole : Bool
  deriving Repr, DecidableEq

/-- Starts a command in a container at a terminal. -/
def execInteractive (name : String) (command : List String) :
    Talk (Except Fault ExecSession) := do
  match ← createExec name command true with
  | .error fault => pure (.error fault)
  | .ok id =>
    match ← startExec id true with
    | .error fault => pure (.error fault)
    | .ok (cs, whole) => pure (.ok ⟨id, cs, whole⟩)

/-! ### Reaching the engine -/

/-- The file behind the address of an engine's socket. -/
def socketFile (address : String) : String :=
  String.ofList (strip address.length address.toList)
where
  /-- The text without the scheme, however often it stands in front. -/
  strip : Nat → List Char → List Char
    | 0, cs => cs
    | n + 1, cs =>
      match Text.after? "unix://".toList cs with
      | some rest => strip n rest
      | none => cs

end NodeStack.Engine
