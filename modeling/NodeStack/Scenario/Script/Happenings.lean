import NodeStack.Engine.Event
import NodeStack.Scenario.Dialling
import NodeStack.Scenario.Replies
import NodeStack.Scenario.Script.Faults
import NodeStack.Scenario.StagedEngine
import NodeStack.Service.Basic

/-!
# `NodeStack.Scenario.Script.Happenings`: what a script lets happen

- `record`, `event`: a container, and an event of the engine.
- `hitch`, `logCut`: what happens to a call of the engine, and to a log.
- `reply`: the answer of a service to a call.
- `attempt`: how a dial goes.
-/

set_option autoImplicit false

namespace NodeStack.Scenario.Script

/-- A container. -/
def record (j : Json) : Engine.Record where
  id := j.textAt "id"
  name := j.textAt "name"
  state := j.textAt "state"
  startedAt := ((j.get? "started_at").integer?).map Time.Stamp.ofMillis
  env := Dict.ofPairs ((j.membersAt "env").filterMap fun (k, v) => v.text?.map fun v => (k, v))

/-- An event of the engine. -/
def event (j : Json) : Engine.Event where
  id := j.textAt "id"
  name := (j.get? "name").text?
  kind := (Engine.EventKind.ofAction? (j.textAt "action")).getD .created

/-- How a call of the engine ends. -/
def turn (j : Json) : StagedEngine.Turn :=
  if j.flagAt "hang" then .never
  else if j.flagAt "panic" then .crashes
  else
    match j.given? "err" with
    | some fault => .fails (engineFault fault)
    | none => .proceeds

/-- What happens to a call of the engine. -/
def hitch (j : Json) : StagedEngine.Hitch := ⟨j.naturalAt "delay_ms", turn j⟩

/-- What happens to a log. -/
def logCut (j : Json) : StagedEngine.LogCut :=
  ⟨j.naturalAt "after", if j.flagAt "hang" then .silent else .broken (engineFault (j.get? "err"))⟩

/-- The value of an answer, as the service of a kind gives it to a method. -/
def value (kind : Option Service.Kind) (method : String) (j : Json) : Replies.Value :=
  match kind, method with
  | some (.lightning ..), "get_info" => .lightning (.ofJson j)
  | some (.trading _), "get_info" => .trading (.ofJson j)
  | some (.trading _), "get_balance" => .balances (Service.Trading.balancesOfJson j)
  | some (.trading _), "create_node" => .created (.ofJson j)
  | some (.trading _), "unlock_node" => .unlocked (.ofJson j)
  | some .channels, _ => .flag (j.bool?.getD false)
  | _, _ => .json j

/-- The answer of a service to a call. -/
def reply (kind : Option Service.Kind) (method : String) (j : Json) : Replies.Reply where
  delay := j.naturalAt "delay_ms"
  hangs := j.flagAt "hang"
  outcome :=
    match j.given? "err" with
    | some fault => .error (upstreamFault fault)
    | none => .ok (value kind method (j.get? "ok"))
  sticky := j.flagAt "sticky"

/-- How a dial ends. -/
def outcome (name : String) : DialOutcome :=
  match name with
  | "fail" => .failure
  | "hang" => .never
  | "panic" => .crash
  | _ => .success

/-- How a dial goes: it ends at once, or after some delays. -/
def attempt : (depth : Nat) → Json → Attempt
  | _, .str name => ⟨0, outcome name⟩
  | 0, _ => ⟨0, .success⟩
  | depth + 1, j =>
    let rest := attempt depth (j.get? "then")
    ⟨j.naturalAt "delay_ms" + rest.delay, rest.outcome⟩

end NodeStack.Scenario.Script
