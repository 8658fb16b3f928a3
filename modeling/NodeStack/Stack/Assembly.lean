import NodeStack.Service.Ethereum.Provider
import NodeStack.Settings.Basic
import NodeStack.Stack.Registry

/-!
# `NodeStack.Stack.Assembly`: the services that settings ask for

- `containerName`: the name of the container of a service.
- `assemble?`: the services of some settings, in their order, and the proxy after them; or the first
  that is not known.
-/

set_option autoImplicit false

namespace NodeStack.Stack

open Service (Kind)
open Settings (ServiceEntry)

/-- The name of the container of a service on a network. -/
def containerName (network service : String) : String := s!"{network}_{service}_1"

/-- A path below another. -/
def below (directory path : String) : String :=
  if directory.toList.getLast?.all (· == '/') then directory ++ path
  else directory ++ "/" ++ path

/-- The number of the chain that goes with a network. -/
def chainId (network : String) : String :=
  if network = "mainnet" then "1" else "4"

/-- The Ethereum nodes offered for light use on a network. -/
def lightNodes (network : String) : List String :=
  if network = "mainnet" then Service.Ethereum.Provider.mainnetLight
  else if network = "testnet" then Service.Ethereum.Provider.testnetLight
  else []

/-- The settings file of a lightning node. -/
def confPath (dataDir name : String) : String := below (below dataDir name) "lnd.conf"

/-- The file that exists once a trading daemon has a wallet. -/
def keyPath (dataDir name : String) : String := below (below dataDir name) "nodekey.dat"

/-- What the service of a name does, if the name is known. -/
def kind? (s : Settings) (name : String) : Option Kind :=
  if name = "bitcoind" then some (.chain "lndbtc")
  else if name = "litecoind" then some (.chain "lndltc")
  else if name = "geth" then some (.ethereum (chainId s.network) (lightNodes s.network))
  else if name = "lndbtc" then some (.lightning "bitcoin" (confPath s.dataDir name))
  else if name = "lndltc" then some (.lightning "litecoin" (confPath s.dataDir name))
  else if name = "connext" then some .channels
  else if name = "opendexd" then some (.trading (keyPath s.dataDir name))
  else if name = "boltz" then some .swap
  else if name = "arby" then some (.plain .arby)
  else if name = "webui" then some (.plain .webui)
  else none

/-- The service of an entry. -/
def service? (s : Settings) (entry : ServiceEntry) : Except Service.Fault Service :=
  match kind? s entry.name with
  | some kind =>
    .ok ⟨entry.name, kind, ⟨containerName s.network entry.name, entry.disabled, entry.mode⟩⟩
  | none => .error (.invalidArgument s!"unknown service: {entry.name}")

/-- The name of the proxy. -/
def proxyName : String := "proxy"

/-- The proxy, which every stack has. -/
def proxy (network : String) : Service :=
  ⟨proxyName, .plain .proxy, ⟨containerName network proxyName, false, ""⟩⟩

/-- The services of some settings, in their order, and the proxy after them. -/
def assemble? (s : Settings) : Except Service.Fault (List Service) :=
  (s.services.mapM (service? s)).map fun services => services ++ [proxy s.network]

end NodeStack.Stack
