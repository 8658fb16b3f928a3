import NodeStack.Service.Inquiry
import NodeStack.Service.Lightning.Conf

/-!
# `NodeStack.Service.Lightning.Settings`: reading the settings of a lightning node

- `settings`: the values of a key; a key without value is a fault.
- `backend`: the node that the lightning node works with.
-/

set_option autoImplicit false

namespace NodeStack.Service.Lightning

/-- The values of a key in the text of a settings file. -/
def settingsIn (path key content : String) : Except Fault (List String) :=
  let values := Conf.values (Conf.entries content) key
  if values.isEmpty then .error (.malformed s!"{key} not set in {path}") else .ok values

/-- The values of a key in a settings file. -/
def settings (path key : String) : Inquiry (Except Fault (List String)) := do
  let content ← Inquiry.file path
  pure (content.bind (settingsIn path key))

/-- The first value of a key in a settings file. -/
def setting (path key : String) : Inquiry (Except Fault String) := do
  let values ← settings path key
  pure (values.map fun vs => vs.headD "")

/-- The node that a lightning node on a chain works with. -/
def backend (chain path : String) : Inquiry (Except Fault String) :=
  setting path s!"{chain}.node"

end NodeStack.Service.Lightning
