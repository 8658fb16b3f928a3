import NodeStack.Engine.Fault

/-!
# `NodeStack.Engine.Log`: the log of a container as it comes

- `LogEnd`: how a log ends, if it does.
- `Log`: the lines of a log, and its end.
- `Log.all?`: the lines together, once the log has ended.
-/

set_option autoImplicit false

namespace NodeStack.Engine

/-- How a log ends. -/
inductive LogEnd where
  /-- It comes to its end. -/
  | whole
  /-- It breaks off. -/
  | broken (fault : Fault)
  /-- It goes on without bringing anything. -/
  | silent
  deriving Repr, DecidableEq

/-- The lines of a log, and how it ends. -/
structure Log where
  lines : List String
  ending : LogEnd
  deriving Repr, DecidableEq

/-- The lines together, or the fault that breaks the log off; nothing of a log that does not end. -/
def Log.all? (l : Log) : Option (Except Fault (List String)) :=
  match l.ending with
  | .whole => some (.ok l.lines)
  | .broken fault => some (.error fault)
  | .silent => none

end NodeStack.Engine
