import NodeStack.Text.Split

/-!
# `NodeStack.Service.Ethereum.Provider`: which Ethereum node is used

- `Provider`: the kinds of node.
- `Provider.ofUrl`: the kind of the node behind an address.
-/

set_option autoImplicit false

namespace NodeStack.Service.Ethereum

/-- The kinds of Ethereum node. -/
inductive Provider where
  /-- The node of this stack. -/
  | native
  /-- A node that somebody else runs. -/
  | external
  /-- The nodes of Infura. -/
  | infura
  /-- One of the nodes offered for light use. -/
  | light
  deriving Repr, DecidableEq

namespace Provider

/-- The name of a kind. -/
def name : Provider → String
  | .native => "native"
  | .external => "external"
  | .infura => "infura"
  | .light => "light"

/-- The address of the node of this stack. -/
def nativeUrl : String := "http://geth:8545"

/-- The nodes offered for light use on the test network. -/
def testnetLight : List String :=
  ["http://eth.kilrau.com:52041", "http://michael1011.at:8546",
   "http://gethopendexdxv2k4pv5t5a5lswq2hcv3icmj3uwg7m2n2vuykiyv77legiad.onion:8546"]

/-- The nodes offered for light use on the main network. -/
def mainnetLight : List String :=
  ["http://eth.kilrau.com:41007", "http://michael1011.at:8545",
   "http://gethopendexdxv2k4pv5t5a5lswq2hcv3icmj3uwg7m2n2vuykiyv77legiad.onion:8545"]

/-- The kind of the node behind an address, given the nodes offered for light use. -/
def ofUrl (light : List String) (url : String) : Provider :=
  if url = nativeUrl then .native
  else if Text.contains url "infura" then .infura
  else if light.contains url then .light
  else .external

end Provider

end NodeStack.Service.Ethereum
