import NodeStack.Engine.Fault
import NodeStack.Engine.Interface
import NodeStack.Service.Basic
import NodeStack.Service.Fault
import NodeStack.Service.Lightning.Message
import NodeStack.Service.Trading.Message

/-!
# `NodeStack.Service.Inquiry`: what the status of a service is found out from

- `Question`, `Question.Answer`: what can be asked on the way.
- `Question.isCall`: the questions that reach out to a service.
- `Inquiry`: a procedure that asks such questions.
- `Surroundings`: what is known before anything is asked.
-/

set_option autoImplicit false

namespace NodeStack.Service

/-- What can be asked on the way to a status. -/
inductive Question where
  /-- What the service's own container says. -/
  | base
  /-- A variable in the environment of the container of a service. -/
  | environment (service key : String)
  /-- The text of a file. -/
  | file (path : String)
  /-- Whether a file exists. -/
  | present (path : String)
  /-- A call of the service's own interface. -/
  | call (method : String) (params : Json)
  /-- Whether there is an Ethereum node behind an address. -/
  | probe (url : String)
  /-- Whether the service says that it is well. -/
  | health
  /-- What the service, a lightning node, says about itself. -/
  | lightning
  /-- What a trading daemon says about itself. -/
  | trading (service : String)
  /-- Two commands at once in the service's own container, if both end in time. -/
  | commands (first second : List String)
  /-- The act of an understudy. -/
  | act (act : Act)

/-- The type of the answers to a question. -/
def Question.Answer : Question → Type
  | .base => Base
  | .environment _ _ => Except Fault (Option String)
  | .file _ => Except Fault String
  | .present _ => Bool
  | .call _ _ => Except Upstream.Fault Json
  | .probe _ => Except Upstream.Fault Unit
  | .health => Bool
  | .lightning => Except Upstream.Fault Lightning.Info
  | .trading _ => Except Upstream.Fault Trading.Info
  | .commands _ _ =>
    Option (Except Engine.Fault Engine.ExecResult × Except Engine.Fault Engine.ExecResult)
  | .act _ => String

/-- Whether a question reaches out to a service, over the network or into its container. -/
def Question.isCall : Question → Bool
  | .call .. | .probe _ | .health | .lightning | .trading _ | .commands .. => true
  | _ => false

/-- A procedure that asks about services. -/
abbrev Inquiry := Plan Question Question.Answer

namespace Inquiry

/-- What the service's own container says. -/
abbrev base : Inquiry Base := .ask .base .done

/-- A variable in the environment of the container of a service. -/
abbrev environment (service key : String) : Inquiry (Except Fault (Option String)) :=
  .ask (.environment service key) .done

/-- The text of a file. -/
abbrev file (path : String) : Inquiry (Except Fault String) := .ask (.file path) .done

/-- Whether a file exists. -/
abbrev present (path : String) : Inquiry Bool := .ask (.present path) .done

/-- A call of the service's own interface without parameters. -/
abbrev call (method : String) : Inquiry (Except Upstream.Fault Json) :=
  .ask (.call method (.arr [])) .done

/-- Whether there is an Ethereum node behind an address. -/
abbrev probe (url : String) : Inquiry (Except Upstream.Fault Unit) := .ask (.probe url) .done

/-- Whether the service says that it is well. -/
abbrev health : Inquiry Bool := .ask .health .done

/-- What the service, a lightning node, says about itself. -/
abbrev lightning : Inquiry (Except Upstream.Fault Lightning.Info) := .ask .lightning .done

/-- What a trading daemon says about itself. -/
abbrev trading (service : String) : Inquiry (Except Upstream.Fault Trading.Info) :=
  .ask (.trading service) .done

/-- Two commands at once in the service's own container, if both end in time. -/
abbrev commands (first second : List String) :
    Inquiry (Option
      (Except Engine.Fault Engine.ExecResult × Except Engine.Fault Engine.ExecResult)) :=
  .ask (.commands first second) .done

/-- The act of an understudy. -/
abbrev act (act : Act) : Inquiry String := .ask (.act act) .done

end Inquiry

/-- What is known before anything is asked. -/
structure Surroundings where
  /-- The kind of the service of a name. -/
  kindOf : String → Option Kind
  /-- The setup is under way. -/
  isSetup : Bool

end NodeStack.Service
