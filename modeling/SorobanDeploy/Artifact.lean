import SorobanDeploy.Pairs

/-!
# Contracts

What is deployed, and what a deployment gives. The logical name of a contract is also the key under
which its ID is saved. If a name is deployed twice, the saved ID is the last one, in the place of
the first (`contractIds`), while the contract that is initialized is the first one
(`contractNamed?`).
-/

namespace SorobanDeploy

/-- A contract package, and the file that its optimized build produces. The path is relative to the
contracts directory unless it is absolute. -/
structure Artifact where
  logicalName : String
  packageName : String
  wasmPath : String
  deriving DecidableEq, Repr

/-- The contracts of the project, in the order in which they are deployed. -/
def Artifact.standard : List Artifact := [
  { logicalName := "EXAMPLE_CONTRACT_ID"
    packageName := "example-contract"
    wasmPath := "target/wasm32v1-none/release/example_contract.wasm" },
  { logicalName := "INHERITANCE_CONTRACT_ID"
    packageName := "inheritance-contract"
    wasmPath := "target/wasm32v1-none/release/inheritance_contract.wasm" }]

/-- The logical name of the contract that is initialized. -/
def inheritanceKey : String := "INHERITANCE_CONTRACT_ID"

/-- The function that initializes it. -/
def initializeFunction : String := "initialize_admin"

/-- A deployed contract: its logical name, and the ID that the network gave it. -/
structure DeployedContract where
  logicalName : String
  contractId : String
  deriving DecidableEq, Repr

namespace DeployedContract

/-- The contract as it is written in the state file and in messages. -/
def line (c : DeployedContract) : String := c.logicalName ++ "=" ++ c.contractId

/-- The IDs by logical name, in the order of deployment. -/
def contractIds (cs : List DeployedContract) : Pairs String String :=
  Pairs.ofList (cs.map fun c => (c.logicalName, c.contractId))

/-- The ID of the first contract of a logical name. -/
def contractNamed? (cs : List DeployedContract) (name : String) : Option String :=
  (cs.find? (·.logicalName = name)).map (·.contractId)

end DeployedContract

/-- The lines that record keyed values. -/
def recordLines (values : Pairs String String) : List String :=
  values.map fun p => p.1 ++ "=" ++ p.2

end SorobanDeploy
