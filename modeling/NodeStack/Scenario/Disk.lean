import NodeStack.Service.Fault
import NodeStack.Text.Split
import NodeStack.Text.Utf8

/-!
# `NodeStack.Scenario.Disk`: files with known contents

- `Disk`: the files.
- `Disk.read`: the text of a file, or why it cannot be read.
- `Disk.holds`: whether there is a file or a directory.
-/

set_option autoImplicit false

namespace NodeStack.Scenario

/-- Files by their paths. -/
abbrev Disk := List (String × List UInt8)

namespace Disk

/-- Whether a path leads to something below another path. -/
def isBelow (directory path : String) : Bool :=
  (Text.after? (directory ++ "/").toList path.toList).isSome

/-- Why there is no file at a path. -/
def reason (d : Disk) (path : String) : String :=
  if d.any fun (file, _) => isBelow path file then "Is a directory (os error 21)"
  else if d.any fun (file, _) => isBelow file path then "Not a directory (os error 20)"
  else "No such file or directory (os error 2)"

/-- The bytes of a file. -/
def bytes? (d : Disk) (path : String) : Except String (List UInt8) :=
  match d.lookup path with
  | some bytes => .ok bytes
  | none => .error (d.reason path)

/-- The text of a file. -/
def read (d : Disk) (path : String) : Except Service.Fault String :=
  match d.bytes? path with
  | .error why => .error (.file why)
  | .ok bytes =>
    match Text.Utf8.decode? bytes with
    | some cs => .ok (String.ofList cs)
    | none => .error (.file "stream did not contain valid UTF-8")

/-- Whether there is a file or a directory. -/
def holds (d : Disk) (path : String) : Bool :=
  (d.lookup path).isSome || d.any fun (file, _) => isBelow path file

end Disk

end NodeStack.Scenario
