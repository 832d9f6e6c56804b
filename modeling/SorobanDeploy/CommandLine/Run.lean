import SorobanDeploy.Client.StellarCli
import SorobanDeploy.CommandLine.Options
import SorobanDeploy.CommandLine.Usage
import SorobanDeploy.Network.Lookup
import SorobanDeploy.Pipeline

/-!
# Running from the command line

The options become a request, the request is run, and the IDs of the contracts are printed. A
failure of the tool ends the program with status 1 and an interruption with status 130; other
failures leave it as they are.
-/

namespace SorobanDeploy.CommandLine

variable {σ : Type}

open Act

/-- The profile of the network that options ask for. A value that was dropped cannot be looked
up. -/
def profileOf (o : Options) : Except Failure NetworkProfile :=
  match o.network with
  | .dropped => .error (.plain .badKind "unhashable type: 'list'")
  | .text name =>
    match NetworkProfile.resolve name with
    | .ok profile => .ok profile
    | .error problem => .error problem.failure

/-- The request that options make. -/
def requestOf (o : Options) : Except Failure DeploymentRequest := do
  let profile ← profileOf o
  let admin := Text.strip ((o.admin.bind OptionValue.text?).getD "")
  if admin.isEmpty then throw Problem.noAdmin.failure
  else pure ⟨profile, admin⟩

/-- How the program ends: its status, and whether the command line already decided it. -/
structure Ending where
  status : Nat
  early : Bool
  deriving DecidableEq, Repr

/-- What the program is given besides its words. -/
structure Surroundings (σ : Type) where
  /-- The client to use in place of the one on the command line. -/
  client : Option (Client σ)
  programs : StellarCli.Programs σ
  transport : Rpc.Transport σ

/-- The client of a run. -/
def clientFor (s : Surroundings σ) (o : Options) : Act σ (Client σ) := do
  match s.client, o.stellarBin with
  | some client, _ => pure client
  | none, some .dropped => pure StellarCli.nameless
  | none, given =>
    let binary := StellarCli.binaryFor (given.bind OptionValue.text?) (← host).env
    pure (StellarCli.client s.programs binary)

/-- The pipeline of a run. -/
def pipelineFor (s : Surroundings σ) (o : Options) : Act σ (Pipeline σ) := do
  let client ← clientFor s o
  let statePath ← match o.stateFile with
    | some (.text path) => pure (Path.ofText path)
    | some .dropped =>
      fail (.plain .badKind "expected str, bytes or os.PathLike object, not list")
    | none => Workspace.defaultStatePath
  pure {
    client := client
    statePath := statePath
    contractsRoot := none
    artifacts := Artifact.standard
    check := if o.checkRpc then some (Rpc.verifyNetwork s.transport) else none }

/-- The deployment that options ask for. -/
def deploy (s : Surroundings σ) (o : Options) : Act σ Deployment := do
  match requestOf o with
  | .error e => fail e
  | .ok request => (← pipelineFor s o).run request

/-- Prints the IDs of the contracts. -/
def printIds : List String → Act σ Unit
  | [] => pure ()
  | l :: rest => do
    print .output (l ++ "\n")
    printIds rest

/-- The end of a run that failed. -/
def endFailed (e : Failure) : Act σ Ending :=
  if e.isA .pipeline then do
    print .errors ("Error: " ++ e.message ++ "\n")
    pure ⟨1, false⟩
  else if e.isA .interrupt then do
    print .errors "Interrupted. Local state was not updated.\n"
    pure ⟨130, false⟩
  else fail e

/-- A run with options. -/
def runOptions (s : Surroundings σ) (o : Options) : Act σ Ending := do
  -- The log is set up first: what goes wrong with the options is told after it.
  emit (.configure (if o.verbose then Log.debug else Log.info))
  recover
    (do
      let d ← deploy s o
      printIds (recordLines (DeployedContract.contractIds d.contracts))
      pure ⟨0, false⟩)
    endFailed

/-- The program. -/
def run (s : Surroundings σ) (words : List String) : Act σ Ending :=
  match parse words with
  | .error e => do
    let width := textWidth (← host).env
    print .errors (usage width ++ programName ++ ": error: " ++ e.message ++ "\n")
    pure ⟨2, true⟩
  | .ok .help => do
    print .output (help (textWidth (← host).env))
    pure ⟨0, true⟩
  | .ok (.options o) => runOptions s o

/-! ## What is seen on the console -/

/-- What a console shows of events: on the output and on the errors, where the log goes too. -/
def consoleFrom (time : String) (log : Log.Settings) : List (Event σ) → String × String
  | [] => ("", "")
  | e :: rest =>
    match e with
    | .configure level => consoleFrom time (log.configure level) rest
    | .print .output text =>
      let (out, err) := consoleFrom time log rest
      (text ++ out, err)
    | .print .errors text =>
      let (out, err) := consoleFrom time log rest
      (out, text ++ err)
    | .note (.record r) =>
      let (out, err) := consoleFrom time log rest
      (out, log.print time r ++ err)
    | _ => consoleFrom time log rest

/-- What a console shows of a whole program, at a fixed time. -/
def console (time : String) (events : List (Event σ)) : String × String :=
  consoleFrom time ⟨Log.warning, []⟩ events

end SorobanDeploy.CommandLine
