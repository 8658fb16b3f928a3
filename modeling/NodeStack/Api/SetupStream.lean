import NodeStack.Json.Printer
import NodeStack.Setup.Journal

/-!
# `NodeStack.Api.SetupStream`: the setup as a stream of lines

- `SetupStream`: the entries that are still to be sent, and the reader of those to come.
- `SetupStream.start`: a stream of all entries that are kept, and of those to come.
- `SetupStream.pull`: the lines that can be sent now.

Each entry is a line of JSON. The stream ends with the first entry that says that the setup is done.
Entries that a slow client has missed are passed over.
-/

set_option autoImplicit false

namespace NodeStack.Api

open Setup (Entry Journal News Reader)

/-- A stream of setup entries. -/
structure SetupStream where
  /-- Entries from before the request that are still to be sent. -/
  past : List Entry
  /-- The reader of the entries to come. -/
  reader : Reader
  /-- The stream has ended. -/
  ended : Bool
  deriving Repr

namespace SetupStream

/-- The line of an entry. -/
def line (e : Entry) : String :=
  let details : Json :=
    match e.details with
    | none => .null
    | some d => Json.ofMembers (d.map fun (k, v) => (k, .str v))
  Json.renderRecord [("status", .str e.status), ("details", details)] ++ "\n"

/-- A stream of all entries that are kept, and of those to come. -/
def start (j : Journal) : SetupStream := ⟨j.replay (-1), j.reader, false⟩

/-- The entries up to the first that says that the setup is done, and whether there is one. -/
def untilDone : List Entry → List Entry × Bool
  | [] => ([], false)
  | e :: rest =>
    if e.isDone then ([e], true)
    else
      let (es, ended) := untilDone rest
      (e :: es, ended)

/-- The entries among the news. -/
def entriesOf (news : List News) : List Entry :=
  news.filterMap fun
    | .entry e => some e
    | .missed _ => none

/-- The entries that can be sent now, those from before the request first. -/
def available (j : Journal) (s : SetupStream) : List Entry × Reader :=
  let (news, reader) := j.readAll s.reader
  (s.past ++ entriesOf news, reader)

/-- The lines that can be sent now. -/
def pull (j : Journal) (s : SetupStream) : List String × SetupStream :=
  if s.ended then ([], s)
  else
    let (entries, reader) := s.available j
    let (entries, ended) := untilDone entries
    (entries.map line, ⟨[], reader, ended⟩)

end SetupStream

end NodeStack.Api
