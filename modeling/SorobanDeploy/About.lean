/-!
# About the package

The version of the package, and the names that it makes public.
-/

namespace SorobanDeploy.About

/-- The version of the package. -/
def version : String := "0.1.0"

/-- The version that an installation tells; without an installation there is none. -/
def installedVersion (installed : Bool) : Option String :=
  if installed then some version else none

/-- The public names, sorted. -/
def publicNames : List String := [
  "BuildError", "ClientCommandError", "ConfigurationError", "ContractArtifact", "DeployedContract",
  "DeploymentError", "DeploymentPipeline", "DeploymentRequest", "DeploymentResult",
  "IdentityResolutionError", "InitializationError", "NetworkCheckError", "NetworkClient",
  "NetworkName", "NetworkProfile", "PersistenceError", "PipelineError", "ResolvedIdentity",
  "StellarCli", "resolve_network_profile"]

end SorobanDeploy.About
