import NodeStack.Engine.Multiplex
import NodeStack.Json.Lenient
import NodeStack.Json.Printer
import NodeStack.Text.Digits
import NodeStack.Text.Utf8

/-!
# `NodeStack.Scenario.Script.Bytes`: bytes that a script gives

- `bytes`: a text, or hexadecimal digits.
- `body`: the same, or a JSON value that is sent as its text.
- `chunk`: a part of a stream of the engine.
-/

set_option autoImplicit false

namespace NodeStack.Scenario.Script

/-- The bytes of a text. -/
def utf8 (s : String) : List UInt8 := Text.Utf8.encode s.toList

/-- The bytes that hexadecimal digits stand for. -/
def hex (s : String) : List UInt8 := (Text.hexBytes? s.toList).getD []

/-- The bytes of a text, or of hexadecimal digits. -/
def bytes : Json → List UInt8
  | .str s => utf8 s
  | j => hex (j.textAt "hex")

/-- The bytes of a text, of hexadecimal digits, or of a JSON value. -/
def body : Json → List UInt8
  | .null => []
  | .str s => utf8 s
  | j =>
    match (j.get? "hex").text? with
    | some s => hex s
    | none => utf8 j.render

/-- The stream that a name stands for. -/
def source (name : String) : Engine.Source :=
  match name with
  | "out" => .output
  | "err" => .error
  | "in" => .input
  | _ => .terminal

/-- A part of a stream of the engine, written as the name of its stream and its bytes. -/
def chunk : Json → List UInt8
  | .arr [.str name, content] => (Engine.Chunk.mk (source name) (bytes content)).frame
  | _ => []

end NodeStack.Scenario.Script
