import SorobanDeploy.Host.Files

/-!
# The places of a run

The contracts directory is looked for in a directory and beside it; the state file stands in the
working directory. A run goes into the contracts directory to build and comes back in every case.
-/

namespace SorobanDeploy.Workspace

variable {σ α : Type}

open Act

/-- The logger of moves between directories. -/
def logger : String := "inheritx_deploy.paths"

/-- The name of the contracts directory. -/
def contractsName : String := "contracts"

/-- The name of the state file. -/
def stateName : String := ".env"

/-- The state file that is used unless another one is asked for. -/
def defaultStatePath : Act σ Path := do
  pure ((← Files.workingDirectory).join (.ofText stateName))

/-- The directory to search from. -/
def searchBase : Option String → Act σ Path
  | none => Files.workingDirectory
  | some start => Files.absolute (.ofText start)

/-- The contracts directory, free of links: the one in the start directory, or else the one beside
it. -/
def findContracts (start : Option String) : Act σ Path := do
  let base ← searchBase start
  let inside := base.join (.ofText contractsName)
  let beside := base.parent.join (.ofText contractsName)
  match ← Files.resolvedDirectory? inside.text with
  | some found => pure found
  | none =>
    match ← Files.resolvedDirectory? beside.text with
    | some found => pure found
    | none => refuse (.noContractsDirectory base.text)

/-- Goes back to a directory. -/
def leaveTo (previous : Path) : Act σ Unit := do
  Files.changeDirectory previous.text
  log Log.debug logger ("Returned to " ++ previous.text)

/-- An action in another directory. -/
def inDirectory (path : Path) (body : Act σ α) : Act σ α := do
  let previous ← Files.workingDirectory
  Files.changeDirectory path.text
  log Log.debug logger ("Entered " ++ path.text)
  andFinally body (leaveTo previous)

end SorobanDeploy.Workspace
