import NodeStack.Json.Basic

/-!
# `NodeStack.Settings.Basic`: the settings of a gateway

- `Settings`: all settings; `Settings.standard`: those of a gateway nobody has configured.
- `ServiceEntry`, `Access`: a service and how it is reached.
- `Settings.json`: the settings as a JSON value.
-/

set_option autoImplicit false

namespace NodeStack

namespace Settings

/-- How log output is written. -/
inductive LogFormat where
  | json
  | pretty
  deriving Repr, DecidableEq

/-- The name of a log format. -/
def LogFormat.name : LogFormat → String
  | .json => "json"
  | .pretty => "pretty"

/-- How a service is reached. What is absent takes a default of the service. -/
inductive Access where
  | mk (host : Option String) (port : Option Nat) (tlsCert macaroon : Option String)
      (username password : Option String) (bitcoin litecoin : Option Access)
  deriving Repr, Inhabited

namespace Access

/-- Nothing said about how to reach a service. -/
def none : Access := .mk .none .none .none .none .none .none .none .none

/-- The host. -/
def host : Access → Option String
  | .mk h .. => h

/-- The port, below `2 ^ 16`. -/
def port : Access → Option Nat
  | .mk _ p .. => p

/-- The file with the certificate. -/
def tlsCert : Access → Option String
  | .mk _ _ t .. => t

/-- The file with the credential. -/
def macaroon : Access → Option String
  | .mk _ _ _ m .. => m

/-- The name to log in with. -/
def username : Access → Option String
  | .mk _ _ _ _ u .. => u

/-- The password to log in with. -/
def password : Access → Option String
  | .mk _ _ _ _ _ p .. => p

/-- How the bitcoin side of a service is reached. -/
def bitcoin : Access → Option Access
  | .mk _ _ _ _ _ _ b _ => b

/-- How the litecoin side of a service is reached. -/
def litecoin : Access → Option Access
  | .mk _ _ _ _ _ _ _ l => l

end Access

/-- A service of the stack. -/
structure ServiceEntry where
  name : String
  /-- The service is not meant to run here. -/
  disabled : Bool
  /-- How the service is provided; empty for the usual way. -/
  mode : String
  access : Access
  deriving Repr

/-- A service with nothing but a name. -/
def ServiceEntry.named (name : String) : ServiceEntry :=
  ⟨name, false, "", Access.none⟩

/-- The services a stack can have. -/
def knownServices : List String :=
  ["bitcoind", "litecoind", "geth", "lndbtc", "lndltc", "connext", "opendexd", "arby", "boltz",
   "webui"]

/-- The networks a stack can run on. -/
def knownNetworks : List String :=
  ["mainnet", "testnet", "simnet"]

end Settings

/-- The settings of a gateway. -/
structure Settings where
  network : String
  /-- The directory with the data of the services. -/
  dataDir : String
  /-- The socket of the container engine. -/
  engineSocket : String
  /-- How long a call may take, in seconds. -/
  apiTimeout : Nat
  /-- How long to wait before a connection is tried again, in seconds. -/
  reconnectDelay : Nat
  /-- The log of the setup, if it is followed. -/
  launcherLog : Option String
  bindAddress : String
  logLevel : String
  logFormat : Settings.LogFormat
  services : List Settings.ServiceEntry
  deriving Repr

namespace Settings

/-- The settings of a gateway nobody has configured. -/
def standard : Settings where
  network := "testnet"
  dataDir := "/root/network/data"
  engineSocket := "/var/run/docker.sock"
  apiTimeout := 10
  reconnectDelay := 3
  launcherLog := none
  bindAddress := "0.0.0.0:8080"
  logLevel := "info,gateway=debug"
  logFormat := .pretty
  services := knownServices.map ServiceEntry.named

/-! ### As a JSON value -/

/-- How a service is reached, as a JSON value. -/
def Access.json : Access → Json
  | .mk host port tlsCert macaroon username password bitcoin litecoin =>
    Json.ofMembers
      [("host", Json.ofText? host),
       ("port", match port with
        | .none => .null
        | some p => Json.ofNat p),
       ("tls_cert", Json.ofText? tlsCert), ("macaroon", Json.ofText? macaroon),
       ("username", Json.ofText? username), ("password", Json.ofText? password),
       ("bitcoin", match bitcoin with
        | .none => .null
        | some a => a.json),
       ("litecoin", match litecoin with
        | .none => .null
        | some a => a.json)]

/-- A service as a JSON value. -/
def ServiceEntry.json (s : ServiceEntry) : Json :=
  Json.ofMembers
    [("name", .str s.name), ("disabled", .bool s.disabled), ("mode", .str s.mode),
     ("rpc", s.access.json)]

/-- The settings as a JSON value. -/
def json (s : Settings) : Json :=
  Json.ofMembers
    [("network", .str s.network), ("data_dir", .str s.dataDir),
     ("docker_socket", .str s.engineSocket), ("api_timeout_secs", Json.ofNat s.apiTimeout),
     ("reconnect_delay_secs", Json.ofNat s.reconnectDelay),
     ("launcher_log", Json.ofText? s.launcherLog),
     ("server", Json.ofMembers [("bind_address", .str s.bindAddress)]),
     ("logging",
      Json.ofMembers [("level", .str s.logLevel), ("format", .str s.logFormat.name)]),
     ("services", .arr (s.services.map ServiceEntry.json))]

end Settings

end NodeStack
