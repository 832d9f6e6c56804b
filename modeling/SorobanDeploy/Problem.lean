import SorobanDeploy.Artifact
import SorobanDeploy.Failure
import SorobanDeploy.Network

/-!
# What can go wrong

The tool's own reasons to stop, each with its class and its message. All of them are failures of the
tool (`Problem.failure_isA_pipeline`).
-/

namespace SorobanDeploy

/-- A reason to stop. -/
inductive Problem where
  /-- The network cannot be deployed to. -/
  | unknownNetwork (name : String)
  /-- No identity was given. -/
  | noAdmin
  /-- Neither place has a contracts directory. -/
  | noContractsDirectory (base : String)
  /-- The state file cannot be read. -/
  | unreadableState (path reason : String)
  /-- The client does not know the identity. -/
  | unknownIdentity (identity : String)
  /-- The client gave an empty address. -/
  | emptyAddress (identity : String)
  /-- The build failed. -/
  | buildFailed (reason : String)
  /-- The optimizing build of one package failed. -/
  | optimizeFailed (package reason : String)
  /-- The build left no file. -/
  | artifactMissing (package path : String)
  /-- A contract could not be deployed, while others are live already. -/
  | deployFailed (package reason : String) (live : List DeployedContract)
  /-- A deployment gave no ID, while others are live already. -/
  | noContractId (package : String) (live : List DeployedContract)
  /-- A deployment gave an ID with a line end in it, while others are live already. -/
  | brokenContractId (package contractId : String) (live : List DeployedContract)
  /-- No deployed contract is the one to initialize. -/
  | nothingToInitialize
  /-- There is no address to initialize with. -/
  | emptyAdminAddress
  /-- The initialization failed. -/
  | initializeFailed (contractId reason : String)
  /-- The IDs could not be saved. -/
  | saveFailed (path reason : String) (values : Pairs String String)
  /-- The client's program does not exist. -/
  | programMissing (binary : String)
  /-- The client's program ended with another status than zero. -/
  | commandFailed (command : String) (status : Int) (stderr : String)
  /-- The server cannot be reached. -/
  | unreachable (url reason : String)
  /-- The server answered with another status than success. -/
  | badAnswerStatus (url : String) (status : Nat)
  /-- The server's answer is not JSON. -/
  | answerNotJson (url : String)
  /-- The server reports an error. -/
  | reportedError (url error : String)
  /-- The server's answer has another shape. -/
  | unexpectedAnswer (url answer : String)
  /-- The server serves another network. -/
  | wrongNetwork (url served expected network : String)

namespace Problem

/-- The class of a problem. -/
def kind : Problem → FailureClass
  | unknownNetwork .. | noAdmin | noContractsDirectory .. | unreadableState .. | wrongNetwork .. =>
    .configuration
  | unknownIdentity .. | emptyAddress .. => .identity
  | buildFailed .. | optimizeFailed .. | artifactMissing .. => .build
  | deployFailed .. | noContractId .. | brokenContractId .. => .deployment
  | nothingToInitialize | emptyAdminAddress | initializeFailed .. => .initialization
  | saveFailed .. => .persistence
  | programMissing .. | commandFailed .. => .command
  | unreachable .. | badAnswerStatus .. | answerNotJson .. | reportedError ..
  | unexpectedAnswer .. => .networkCheck

/-- The note on contracts that are live although the deployment stopped. -/
def liveNote (live : List DeployedContract) : String :=
  if live.isEmpty then ""
  else ". Already deployed in this run (still live): "
    ++ ", ".intercalate (live.map DeployedContract.line)

/-- What a problem says. -/
def message : Problem → String
  | unknownNetwork name =>
    "Unknown network '" ++ name ++ "'. Supported networks: "
      ++ ", ".intercalate NetworkProfile.supported
  | noAdmin =>
    "--admin <identity> is required to deploy and initialize. "
      ++ "Create it first using: stellar keys add <identity>"
  | noContractsDirectory base =>
    "Could not find contracts directory: looked for ./contracts and ../contracts relative to "
      ++ base
  | unreadableState path reason => "Could not read state file " ++ path ++ ": " ++ reason
  | unknownIdentity identity =>
    "Could not derive public address for identity '" ++ identity
      ++ "'. Make sure the identity exists: stellar keys ls"
  | emptyAddress identity =>
    "Could not derive public address for identity '" ++ identity
      ++ "'. Create it first using: stellar keys add <identity>"
  | buildFailed reason => "Contract build failed: " ++ reason
  | optimizeFailed package reason => "Optimizing " ++ package ++ " failed: " ++ reason
  | artifactMissing package path => "Built artifact for " ++ package ++ " not found at " ++ path
  | deployFailed package reason live =>
    "Deploying " ++ package ++ " failed: " ++ reason ++ liveNote live
  | noContractId package live =>
    "Deploying " ++ package ++ " returned no contract ID" ++ liveNote live
  | brokenContractId package contractId live =>
    "Deploying " ++ package ++ " returned a multi-line contract ID " ++ Text.quoted contractId
      ++ liveNote live
  | nothingToInitialize => "No " ++ inheritanceKey ++ " among deployed contracts"
  | emptyAdminAddress => "Admin address is empty; refusing to initialize"
  | initializeFailed contractId reason =>
    initializeFunction ++ " on " ++ contractId
      ++ " failed (was the contract already initialized?): " ++ reason
  | saveFailed path reason values =>
    "Contracts were deployed and initialized, but saving to " ++ path ++ " failed: " ++ reason
      ++ ". Check the --state-file path and permissions, then record these IDs manually:\n"
      ++ "\n".intercalate (recordLines values)
  | programMissing binary =>
    "stellar CLI not found (" ++ binary ++ "). Install it or set $STELLAR_BIN."
  | commandFailed command status stderr =>
    "Command failed with exit code " ++ toString status ++ ": " ++ command
      ++ (if stderr.isEmpty then "" else "\n" ++ stderr)
  | unreachable url reason => "Network error during RPC call to " ++ url ++ ": " ++ reason
  | badAnswerStatus url status =>
    "RPC request to " ++ url ++ " failed with status " ++ toString status
  | answerNotJson url => "RPC response from " ++ url ++ " is not JSON"
  | reportedError url error => "RPC error from " ++ url ++ ": " ++ error
  | unexpectedAnswer url answer => "Unexpected RPC response from " ++ url ++ ": " ++ answer
  | wrongNetwork url served expected network =>
    "RPC endpoint " ++ url ++ " serves '" ++ served ++ "', expected '" ++ expected ++ "' for "
      ++ network

/-- The failure of a problem that nothing else caused. -/
def failure (p : Problem) : Failure := .of p.kind p.message none .nothing

/-- Every reason to stop is a failure of the tool. -/
theorem failure_isA_pipeline (p : Problem) : p.failure.isA .pipeline = true := by
  cases p <;> rfl

/-- The failure of a problem that another failure caused. -/
def because (p : Problem) (cause : Failure) : Failure := .of p.kind p.message (some cause) .nothing

end Problem

end SorobanDeploy
