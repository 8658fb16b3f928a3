import NodeStack.Engine.Fault
import NodeStack.Text.Blank
import NodeStack.Text.Digits
import NodeStack.Time.Stamp

/-!
# `NodeStack.Engine.Since`: where a log is to begin

- `since?`: the second a text names: nothing, a number of seconds, a timestamp, or an age such as
  `10m`.
- `engineSecond`: that second as the engine takes it, within 31 bits.
-/

set_option autoImplicit false

namespace NodeStack.Engine

/-- The seconds of a unit of age. -/
def unitSeconds? : Char → Option Int
  | 's' => some 1
  | 'm' => some 60
  | 'h' => some 3600
  | 'd' => some 86400
  | _ => none

/-- A whole number and the character after it. -/
def age? (cs : List Char) : Option (Int × Char) :=
  match cs.reverse with
  | [] => none
  | unit :: amount => (Text.integer? amount.reverse).map fun n => (n, unit)

/-- The second that lies an age before `now`, if both the age in seconds and that second fit 64
signed bits. -/
def secondOfAge? (now : Int) (cs : List Char) : Option Int := do
  let (amount, unit) ← age? cs
  let scale ← unitSeconds? unit
  let seconds ← if Text.fits64 (amount * scale) then some (amount * scale) else none
  if Text.fits64 (now - seconds) then some (now - seconds) else none

/-- The second that trimmed text names. -/
def second? (now : Int) (cs : List Char) : Option Int :=
  if cs.isEmpty then some 0
  else
    match Text.integer? cs with
    | some n => some n
    | none =>
      match Time.Stamp.ofChars? cs with
      | some t => some t.seconds
      | none => secondOfAge? now cs

/-- The second from which a log is asked for, at the second `now`. -/
def since? (now : Int) (raw : String) : Except Fault Int :=
  let text := Text.trim raw
  match second? now text.toList with
  | some n => .ok n
  | none => .error (.invalidSince text)

/-- The greatest second the engine takes. -/
def lastSecond : Int := 2 ^ 31 - 1

/-- The second as the engine takes it: the nearest one it has. -/
def engineSecond (second : Int) : Int :=
  max 0 (min second lastSecond)

end NodeStack.Engine
