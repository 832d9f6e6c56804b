import SorobanDeploy.Host.Session
import SorobanDeploy.Text.Blank

/-!
# Identities and funding

An identity is resolved to its address before anything else is done with it. Funding is asked for on
test networks only, and a failure of it never stops a run.
-/

namespace SorobanDeploy

variable {σ : Type}

open Act

/-- An identity and its public address. -/
structure ResolvedIdentity where
  identity : String
  address : String
  deriving DecidableEq, Repr

/-- What became of a request for funds. -/
structure FundingResult where
  identity : String
  network : String
  attempted : Bool
  funded : Bool
  detail : String
  deriving DecidableEq, Repr

namespace Identity

/-- The logger of identities. -/
def logger : String := "inheritx_deploy.identity"

/-- The address of an identity. -/
def resolve (client : Client σ) (identity : String) : Act σ ResolvedIdentity := do
  let raw ← explain (fun _ => .unknownIdentity identity) (ask client (.resolveAddress identity))
  let address := Text.strip (raw.getD "")
  if address.isEmpty then refuse (.emptyAddress identity)
  else pure ⟨identity, address⟩

/-- Asks for funds on a test network. -/
def ensureFunded (client : Client σ) (identity network : String) : Act σ FundingResult := do
  if isFundingNetwork network then
    log Log.info logger ("Ensuring the account is funded on " ++ network ++ "...")
    match ← attempt .ordinary (ask client (.fund identity network)) with
    | .ok _ => pure ⟨identity, network, true, true, ""⟩
    | .error e =>
      log Log.warning logger
        ("Funding " ++ identity ++ " on " ++ network ++ " did not succeed: " ++ e.message)
      pure ⟨identity, network, true, false, e.message⟩
  else
    log Log.debug logger ("Skipping funding on " ++ network)
    pure ⟨identity, network, false, false, ""⟩

end Identity

end SorobanDeploy
