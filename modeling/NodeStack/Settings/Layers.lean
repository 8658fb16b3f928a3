import NodeStack.Json.Printer
import NodeStack.Settings.Path
import NodeStack.Settings.Variables
import NodeStack.Text.Utf8
import NodeStack.Toml.Document

/-!
# `NodeStack.Settings.Layers`: settings from a file and from variables

- `Format`, `formats`: the formats of settings files, by the endings of their names.
- `fileLayer?`: the layer of a settings file.
- `withVariables`: settings with variables put over them.
- `load`: the standard settings, with a file over them and variables over that.

A variable names its place by what follows `GATEWAY__`, in any case, two underscores for a point.
-/

set_option autoImplicit false

namespace NodeStack.Settings

/-! ### Files -/

/-- A format of settings files. -/
structure Format where
  /-- The ending of the name. -/
  ending : String
  read? : List Char → Option Json

/-- The formats, the one that is looked for first at the front. -/
def formats : List Format := [⟨".toml", Toml.ofChars?⟩, ⟨".json", Json.ofChars?⟩]

/-- The name of a settings file without its ending. -/
def fileStem : String := "config/gateway"

/-- The mark that may stand at the beginning of a file. -/
def byteMark : List UInt8 := [0xEF, 0xBB, 0xBF]

/-- The text of a file. -/
def textOf (bytes : List UInt8) : List Char :=
  Text.Utf8.decodeLossy (if bytes.take 3 = byteMark then bytes.drop 3 else bytes)

/-- The layer of the settings file, if there is one: an object, or nothing if it cannot be read. A
file whose name has no ending stands in the way of the others. -/
def fileLayer? (read : String → Option (List UInt8)) : Option (Option Json) :=
  if (read fileStem).isSome then none
  else
    formats.findSome? fun format =>
      (read (fileStem ++ format.ending)).map fun bytes =>
        (format.read? (textOf bytes)).filter Json.isObject

/-- Settings with a layer put over them: the name of each part is read as a path. -/
def withLayer (layer settings : Json) : Json :=
  (layer.members?.getD []).foldl (fun s (name, value) => Path.putAt name value s) settings

/-! ### Variables -/

/-- How the names of variables with settings begin. -/
def variableMark : String := "gateway__"

/-- The place that a variable names, if it is one with settings. -/
def placeOf? (name : String) : Option String :=
  (Text.after? variableMark.toList (Text.Case.lower name).toList).map fun rest =>
    Text.joinWith "." ((Text.pieces "__".toList rest).map String.ofList)

/-- The value of a variable: a truth value, a number, or a text. -/
def variableValue (text : String) : Json :=
  let word := Text.Case.lower text
  if word = "true" then .bool true
  else if word = "false" then .bool false
  else
    match Text.integer? text.toList, Decimal.ofPlain? text.toList with
    | some n, _ => Json.ofInt n
    | none, some f => .num (.double f.toBits)
    | none, none => .str text

/-- Settings with variables put over them. -/
def withVariables (env : Dict String) (settings : Json) : Json :=
  let places := env.filterMap fun (name, text) =>
    (placeOf? name).map fun place => (place, variableValue text)
  (Dict.ofPairs places).foldl (fun s (place, value) => Path.putAt place value s) settings

/-! ### All layers -/

/-- Why settings cannot be loaded. -/
inductive LoadFault where
  /-- The settings file cannot be read. -/
  | build
  /-- A value is not what it has to be. -/
  | deserialize
  deriving Repr, DecidableEq

/-- The wording of a fault. -/
def LoadFault.message : LoadFault → String
  | .build => "Failed to build configuration"
  | .deserialize => "Failed to deserialize configuration"

/-- The name of the file with variables. -/
def variablesFile : String := ".env"

/-- The variables of a surrounding, with those of the file beside them. -/
def surrounding (read : String → Option (List UInt8)) (env : Dict String) : Dict String :=
  match (read variablesFile).bind Text.Utf8.decode? with
  | some text => Variables.readFile text env
  | none => env

/-- The settings of a surrounding. -/
def load (read : String → Option (List UInt8)) (env : Dict String) :
    Except LoadFault Settings :=
  let env := surrounding read env
  match fileLayer? read with
  | some none => .error .build
  | layer =>
    let base := withLayer ((layer.bind id).getD (.obj [])) standard.json
    match ofJson? Scalars.lenient (withVariables env base) with
    | some settings => .ok settings
    | none => .error .deserialize

end NodeStack.Settings
