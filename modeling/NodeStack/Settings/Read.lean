import NodeStack.Decimal.Plain
import NodeStack.Json.Record
import NodeStack.Settings.Basic
import NodeStack.Text.Case
import NodeStack.Text.Digits

/-!
# `NodeStack.Settings.Read`: settings from a JSON value

- `Scalars`: how texts, numbers and truth values are read; `strict` takes each as it is, `lenient`
  takes one for another where that makes sense.
- `Settings.ofJson?`: the settings of a value.
- `Json.merge`: a value with parts of another put over it, member by member.
-/

set_option autoImplicit false

namespace NodeStack

/-- A value with another put over it: objects member by member, anything else as a whole. -/
def Json.merge : (base upper : Json) → Json
  | .obj base, .obj upper => .obj (mergeMembers base upper)
  | _, .obj upper => .obj (mergeMembers [] upper)
  | _, upper => upper
where
  /-- Puts each member over the one of the same name. -/
  mergeMembers : (base upper : List (String × Json)) → List (String × Json)
    | base, [] => base
    | base, (name, value) :: rest =>
      mergeMembers (Dict.put name (Json.merge ((base.lookup name).getD .null) value) base) rest

namespace Settings

/-- How the plain values of settings are read. -/
structure Scalars where
  text : Json → Option String
  /-- A whole number that is not negative and below a bound. -/
  natural : (bound : Nat) → Json → Option Nat
  flag : Json → Option Bool
  /-- The name of a choice. -/
  choice : Json → Option String
  /-- A record that is written as an array may have more items than it has fields. -/
  surplus : Bool

namespace Scalars

/-- The fields of a record. -/
def fields? (read : Scalars) (names : List String) (v : Json) : Option (List (Option Json)) :=
  match v with
  | .arr items =>
    Json.fields? names (.arr (if read.surplus then items.take names.length else items))
  | v => Json.fields? names v

/-- A choice: its name, or an object of one member with that name whose value is accepted. -/
def choiceWith (accepts : Json → Bool) : Json → Option String
  | .str name => some name
  | .obj [(name, value)] => if accepts value then some name else none
  | _ => none

/-- Each value is taken as it is. -/
def strict : Scalars where
  text := Json.text?
  natural bound v := Json.below? bound v
  flag := Json.bool?
  choice := choiceWith fun v => match v with
    | .null => true
    | _ => false
  surplus := false

/-- The truth value a word stands for. -/
def word? (text : String) : Option Bool :=
  let word := Text.Case.lower text
  if ["true", "on", "yes"].contains word then some true
  else if ["false", "off", "no"].contains word then some false
  else none

/-- The double of a whole number that does not fit 64 signed bits. -/
def wide? (n : Int) : Option UInt64 :=
  if Text.fits64 n then none else some (UInt64.ofNat n.toNat).toFloat.toBits

/-- The text of a plain value. -/
def lenientText : Json → Option String
  | .str s => some s
  | .bool b => some (if b then "true" else "false")
  | .num (.whole n) => some (((wide? n).map Decimal.plainText).getD (toString n))
  | .num (.double bits) => some (Decimal.plainText bits)
  | _ => none

/-- A double as a whole number that is not negative: rounded, a half away from zero; what is out of
range is cut off. -/
def roundedNatural (bits : UInt64) : Nat :=
  (Float.ofBits bits).round.toUInt64.toNat

/-- The whole number of a plain value. -/
def lenientNatural : Json → Option Nat
  | .num (.whole n) =>
    if n < 0 then none else some (((wide? n).map roundedNatural).getD n.toNat)
  | .num (.double bits) => some (roundedNatural bits)
  | .bool b => some (if b then 1 else 0)
  | .str s =>
    match word? s with
    | some b => some (if b then 1 else 0)
    | none => Text.natural? 10 (2 ^ 64) s.toList
  | _ => none

/-- The truth value of a plain value. -/
def lenientFlag : Json → Option Bool
  | .bool b => some b
  | .num (.whole n) => some (n != 0)
  | .num (.double bits) => some (Float.ofBits bits != 0.0)
  | .str s =>
    match word? s with
    | some b => some b
    | none => if s = "1" then some true else if s = "0" then some false else none
  | _ => none

/-- A plain value of another kind is taken where it makes sense. -/
def lenient : Scalars where
  text := lenientText
  natural bound v := (lenientNatural v).filter (· < bound)
  flag := lenientFlag
  choice := choiceWith fun _ => true
  surplus := true

end Scalars

/-- The names of the parts of an access. -/
def accessFields : List String :=
  ["host", "port", "tls_cert", "macaroon", "username", "password", "bitcoin", "litecoin"]

/-- How a service is reached, nested at most `fuel` levels. -/
def access? (read : Scalars) : (fuel : Nat) → Json → Option Access
  | 0, _ => none
  | fuel + 1, value => do
    match ← read.fields? accessFields value with
    | [host, port, tlsCert, macaroon, username, password, bitcoin, litecoin] =>
      let host ← Json.optional read.text host
      let port ← Json.optional (read.natural (2 ^ 16)) port
      let tlsCert ← Json.optional read.text tlsCert
      let macaroon ← Json.optional read.text macaroon
      let username ← Json.optional read.text username
      let password ← Json.optional read.text password
      let bitcoin ← Json.optional (access? read fuel) bitcoin
      let litecoin ← Json.optional (access? read fuel) litecoin
      pure (.mk host port tlsCert macaroon username password bitcoin litecoin)
    | _ => none

/-- The levels of nesting an access can have. A JSON text has no more. -/
def accessLevels : Nat := 128

/-- A service of the list. -/
def member? (read : Scalars) (value : Json) : Option ServiceEntry := do
  match ← read.fields? ["name", "disabled", "mode", "rpc"] value with
  | [name, disabled, mode, access] =>
    let name ← Json.required read.text name
    let disabled ← Json.withDefault false read.flag disabled
    let mode ← Json.withDefault "" read.text mode
    let access ← Json.withDefault Access.none (access? read accessLevels) access
    pure ⟨name, disabled, mode, access⟩
  | _ => none

/-- A list of services. -/
def services? (read : Scalars) (value : Json) : Option (List ServiceEntry) :=
  value.items?.bind fun items => items.mapM (member? read)

/-- The address of the server part. -/
def serverPart? (read : Scalars) (value : Json) : Option String := do
  match ← read.fields? ["bind_address"] value with
  | [address] => Json.required read.text address
  | _ => none

/-- A log format. -/
def logFormat? (read : Scalars) (value : Json) : Option LogFormat := do
  let name ← read.choice value
  if name = "json" then some .json else if name = "pretty" then some .pretty else none

/-- The level and the format of the logging part. -/
def loggingPart? (read : Scalars) (value : Json) : Option (String × LogFormat) := do
  match ← read.fields? ["level", "format"] value with
  | [level, format] =>
    let level ← Json.required read.text level
    let format ← Json.required (logFormat? read) format
    pure (level, format)
  | _ => none

/-- The names of the parts of the settings. -/
def fieldNames : List String :=
  ["network", "data_dir", "docker_socket", "api_timeout_secs", "reconnect_delay_secs",
   "launcher_log", "server", "logging", "services"]

/-- The settings of a value. -/
def ofJson? (read : Scalars) (value : Json) : Option Settings := do
  match ← read.fields? fieldNames value with
  | [network, dataDir, socket, timeout, delay, log, server, logging, services] =>
    let network ← Json.required read.text network
    let dataDir ← Json.required read.text dataDir
    let socket ← Json.required read.text socket
    let timeout ← Json.required (read.natural (2 ^ 64)) timeout
    let delay ← Json.required (read.natural (2 ^ 64)) delay
    let log ← Json.optional read.text log
    let address ← Json.required (serverPart? read) server
    let (level, format) ← Json.required (loggingPart? read) logging
    let services ← Json.withDefault [] (services? read) services
    pure ⟨network, dataDir, socket, timeout, delay, log, address, level, format, services⟩
  | _ => none

/-- The standard settings with parts of a value put over them. -/
def patched? (patch : Json) : Option Settings :=
  ofJson? Scalars.strict (Json.merge standard.json patch)

end Settings

end NodeStack
