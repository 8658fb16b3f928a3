import NodeStack.Json.Lenient
import NodeStack.Launcher.Fault
import NodeStack.Stack.Fault

/-!
# `NodeStack.Scenario.Script.Faults`: faults that a script brings about

- `engineFault`, `upstreamFault`, `linkFault`, `serviceFault`, `stackFault`, `launcherFault`: the
  fault of each layer that a script writes as a kind, with a message, a code and the fault that it
  wraps.

A kind that a layer does not know stands for its most common fault.
-/

set_option autoImplicit false

namespace NodeStack.Scenario.Script

/-- A fault of the engine. -/
def engineFault (j : Json) : Engine.Fault :=
  let message := j.textAt "message"
  match j.textAt "kind" with
  | "ContainerNotFound" => .containerNotFound message
  | "StreamClosed" => .streamClosed
  | "InvalidSince" => .invalidSince message
  | "BollardError" => .refused (((j.get? "code").natural?).getD 500) message
  | _ => .connectionFailed message

/-- A fault of a call to an upstream service. -/
def upstreamFault (j : Json) : Upstream.Fault :=
  let message := j.textAt "message"
  let code := j.integerAt "code"
  match j.textAt "kind" with
  | "Timeout" => .timeout
  | "Status" => .status (Upstream.Code.ofNumber code) message
  | "Remote" => .remote code message
  | "Malformed" => .malformed message
  | _ => .noClient

/-- A fault of a connection. -/
def linkFault (j : Json) : Upstream.LinkFault :=
  let message := j.textAt "message"
  match j.textAt "kind" with
  | "InvalidTarget" => .invalidTarget message
  | "Tls" => .tls message
  | "Credential" => .credential message
  | "Worker" => .worker message
  | _ => .unavailable message

/-- A fault of a service. -/
def serviceFault (j : Json) : Service.Fault :=
  let message := j.textAt "message"
  let inner := j.get? "inner"
  match j.textAt "kind" with
  | "ContainerMissing" => .containerMissing message
  | "Runtime" => .engine (engineFault inner)
  | "Rpc" => .upstream (upstreamFault inner)
  | "Connect" => .link (linkFault inner)
  | "CommandFailed" => .commandFailed (j.integerAt "code") message
  | "Sibling" => .sibling message
  | "InvalidArgument" => .invalidArgument message
  | "Io" => .file message
  | _ => .malformed message

/-- A fault of the stack. -/
def stackFault (j : Json) : Stack.Fault :=
  let message := j.textAt "message"
  match j.textAt "kind" with
  | "DuplicateService" => .duplicate message
  | "Close" => .close message (serviceFault (j.get? "inner"))
  | _ => .notFound message

/-- A fault of a call to a launcher. -/
def launcherFault (j : Json) : Launcher.Fault :=
  let message := j.textAt "message"
  match j.textAt "kind" with
  | "NoLauncher" => .noLauncher
  | "ConnectionClosed" => .exchange .closed
  | "Remote" => .exchange (.remote message)
  | "Timeout" => .timeout
  | _ => .malformed message

end NodeStack.Scenario.Script
