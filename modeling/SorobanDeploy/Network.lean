import SorobanDeploy.Pairs

/-!
# Networks

The networks by name, the table of those that can be deployed to, and the test networks that fund an
account on request. The table decides: a name is deployable exactly when it stands there.
-/

namespace SorobanDeploy

/-- The known networks. Not every one can be deployed to. -/
inductive NetworkName where
  | testnet
  | mainnet
  | futurenet
  deriving DecidableEq, Repr

/-- The name of a network as it is written. -/
def NetworkName.text : NetworkName → String
  | .testnet => "testnet"
  | .mainnet => "mainnet"
  | .futurenet => "futurenet"

/-- All networks. -/
def NetworkName.all : List NetworkName := [.testnet, .mainnet, .futurenet]

/-- Names are written differently. -/
theorem NetworkName.text_injective (a b : NetworkName) (h : a.text = b.text) : a = b := by
  cases a <;> cases b <;> first | rfl | exact absurd h (by decide)

/-- An endpoint, and the passphrase that identifies the network behind it. -/
structure NetworkProfile where
  name : NetworkName
  rpcUrl : String
  passphrase : String
  deriving DecidableEq, Repr

namespace NetworkProfile

/-- The networks that can be deployed to. -/
def table : List NetworkProfile := [
  { name := .testnet
    rpcUrl := "https://soroban-testnet.stellar.org:443"
    passphrase := "Test SDF Network ; September 2015" },
  { name := .mainnet
    rpcUrl := "https://soroban-rpc.mainnet.stellar.org:443"
    passphrase := "Public Global Stellar Network ; September 2015" }]

/-- The names of the networks that can be deployed to. -/
def supported : List String := table.map (·.name.text)

/-- The profile of a name, if the network can be deployed to. -/
def named? (name : String) : Option NetworkProfile :=
  table.find? (·.name.text = name)

end NetworkProfile

/-- The network to deploy to unless another one is asked for. -/
def defaultNetwork : NetworkName := .testnet

/-- The networks whose accounts are funded on request. -/
def fundingNetworks : List NetworkName := [.futurenet, .testnet]

/-- Whether the network of a name funds accounts on request. -/
def isFundingNetwork (name : String) : Bool :=
  fundingNetworks.any (·.text = name)

end SorobanDeploy
