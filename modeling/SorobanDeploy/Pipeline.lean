import SorobanDeploy.Identity
import SorobanDeploy.Rpc.Check
import SorobanDeploy.StateFile.Store
import SorobanDeploy.Workspace

/-!
# The pipeline

A run resolves the identity, asks for funds, checks the network if that is wanted, builds and
optimizes all packages, deploys them in order, initializes one of them and saves the IDs. It stops
at the first failure, which tells the stage. Nothing is saved before the initialization succeeded.
-/

namespace SorobanDeploy

variable {σ : Type}

open Act

/-- Which network to deploy to, and under which identity. -/
structure DeploymentRequest where
  network : NetworkProfile
  adminIdentity : String
  deriving DecidableEq, Repr

/-- What a successful run leaves. -/
structure Deployment where
  request : DeploymentRequest
  admin : ResolvedIdentity
  contracts : List DeployedContract
  statePath : Path
  deriving DecidableEq, Repr

/-- The settings of a pipeline. -/
structure Pipeline (σ : Type) where
  client : Client σ
  statePath : Path
  /-- Where the contracts directory is looked for; in the working directory if nothing is given. -/
  contractsRoot : Option String
  artifacts : List Artifact
  /-- The check of the network, if it is wanted. -/
  check : Option (Party σ NetworkProfile Rpc.NetworkInfo)

namespace Pipeline

/-- The logger of the pipeline. -/
def logger : String := "inheritx_deploy.pipeline"

/-- Tells what happens. -/
def tell (message : String) : Act σ Unit := log Log.info logger message

/-- Tells which saved IDs a run is going to replace. -/
def reportReplaced (previous : Pairs String String) : List Artifact → Act σ Unit
  | [] => pure ()
  | a :: rest => do
    match Pairs.get? a.logicalName previous with
    | some id => tell ("Replacing previous " ++ a.logicalName ++ "=" ++ id)
    | none => pure ()
    reportReplaced previous rest

/-- Reads the state file and tells what is going to be replaced. -/
def reportPrevious (p : Pipeline σ) : Act σ Unit := do
  reportReplaced (← StateFile.load p.statePath) p.artifacts

/-- The address of the identity of a request. -/
def resolveIdentity (p : Pipeline σ) (request : DeploymentRequest) : Act σ ResolvedIdentity :=
  Identity.resolve p.client request.adminIdentity

/-- Funds for the identity of a request. -/
def fund (p : Pipeline σ) (request : DeploymentRequest) : Act σ FundingResult :=
  Identity.ensureFunded p.client request.adminIdentity request.network.name.text

/-- The check of the network, if it is wanted. -/
def checkNetwork (p : Pipeline σ) (profile : NetworkProfile) : Act σ Unit :=
  match p.check with
  | some check => do
    emit (.check profile)
    let _ ← consult check profile
  | none => pure ()

/-- Optimizes one package after the other. -/
def optimizeAll (client : Client σ) : List Artifact → Act σ Unit
  | [] => pure ()
  | a :: rest => do
    let _ ← explain (fun e => .optimizeFailed a.packageName e.message)
      (ask client (.build (some a.packageName) true))
    optimizeAll client rest

/-- Builds all packages and then optimizes each of them, in the contracts directory. -/
def buildAll (p : Pipeline σ) : Act σ Unit := do
  tell "[1/4] Building contracts..."
  let _ ← explain (fun e => .buildFailed e.message) (ask p.client (.build none false))
  tell "[2/4] Optimizing contracts..."
  optimizeAll p.client p.artifacts

/-- An artifact with the absolute path of its file. -/
def placed (contracts : Path) (a : Artifact) : Artifact :=
  { a with wasmPath := (contracts.join (.ofText a.wasmPath)).text }

/-- Builds everything. The artifacts that come back have absolute paths. -/
def build (p : Pipeline σ) : Act σ (List Artifact) := do
  let contracts ← Workspace.findContracts p.contractsRoot
  Workspace.inDirectory contracts p.buildAll
  pure (p.artifacts.map (placed contracts))

/-- The ID in an answer to a deployment: text that is not empty and has no line end in it. -/
def acceptId (package : String) (live : List DeployedContract) (answer : Option String) :
    Except Problem String :=
  match answer with
  | none => .error (.noContractId package live)
  | some id =>
    if id.isEmpty then .error (.noContractId package live)
    else if id.toList.contains '\n' || id.toList.contains '\r' then
      .error (.brokenContractId package id live)
    else .ok id

/-- Deploys one artifact, while others are live already. -/
def deployOne (p : Pipeline σ) (request : DeploymentRequest) (live : List DeployedContract)
    (a : Artifact) : Act σ DeployedContract := do
  let wasm := (Path.ofText a.wasmPath).text
  if ← Files.isFile wasm then
    tell ("- Deploying " ++ a.packageName ++ "...")
    let answer ← explain (fun e => .deployFailed a.packageName e.message live)
      (ask p.client (.deploy wasm request.network request.adminIdentity))
    match acceptId a.packageName live answer with
    | .error problem => refuse problem
    | .ok id =>
      tell ("  ID: " ++ id)
      pure ⟨a.logicalName, id⟩
  else refuse (.artifactMissing a.packageName wasm)

/-- Deploys artifacts in order, while others are live already; all that are live come back. -/
def deployFrom (p : Pipeline σ) (request : DeploymentRequest) (live : List DeployedContract) :
    List Artifact → Act σ (List DeployedContract)
  | [] => pure live
  | a :: rest => do
    let contract ← p.deployOne request live a
    p.deployFrom request (live ++ [contract]) rest

/-- Deploys artifacts in order. -/
def deployAll (p : Pipeline σ) (request : DeploymentRequest) (artifacts : List Artifact) :
    Act σ (List DeployedContract) := do
  tell "[3/4] Deploying contracts..."
  p.deployFrom request [] artifacts

/-- Calls the initializing function of the inheritance contract. -/
def initializeAdmin (p : Pipeline σ) (request : DeploymentRequest) (admin : ResolvedIdentity)
    (deployed : List DeployedContract) : Act σ Unit := do
  tell "[4/4] Initializing inheritance-contract..."
  match DeployedContract.contractNamed? deployed inheritanceKey with
  | none => refuse .nothingToInitialize
  | some id =>
    if admin.address.isEmpty then refuse .emptyAdminAddress
    else
      let _ ← explain (fun e => .initializeFailed id e.message)
        (ask p.client (.invoke id initializeFunction [("admin", admin.address)] request.network
          request.adminIdentity))
      tell "  Initialized successfully."

/-- A failure to save becomes one that lists what should have been saved. -/
def unsaved (path : Path) (values : Pairs String String) (e : Failure) : Failure :=
  if e.isA .system ∨ e.isA .badText then
    (Problem.saveFailed path.text e.message values).because e
  else e

/-- Saves the IDs of the deployed contracts. -/
def persist (p : Pipeline σ) (deployed : List DeployedContract) : Act σ Unit := do
  tell ("Saving contract IDs to " ++ p.statePath.text ++ "...")
  let values := DeployedContract.contractIds deployed
  mapFailure (unsaved p.statePath values) (StateFile.upsert p.statePath values)

/-- The whole run. -/
def run (p : Pipeline σ) (request : DeploymentRequest) : Act σ Deployment := do
  tell "Building and deploying InheritX contracts"
  tell ("Network: " ++ request.network.name.text ++ " (" ++ request.network.rpcUrl ++ ")")
  tell ("Admin identity: " ++ request.adminIdentity)
  p.reportPrevious
  -- An identity without an address ends the run before anything is asked of the network.
  let admin ← p.resolveIdentity request
  tell ("Admin address: " ++ admin.address)
  let _ ← p.fund request
  p.checkNetwork request.network
  let artifacts ← p.build
  let deployed ← p.deployAll request artifacts
  -- The IDs are saved last, when all that they stand for is live and initialized.
  p.initializeAdmin request admin deployed
  p.persist deployed
  tell ("Deployment complete. Contract IDs saved to " ++ p.statePath.text)
  pure ⟨request, admin, deployed, p.statePath⟩

end Pipeline

end SorobanDeploy
