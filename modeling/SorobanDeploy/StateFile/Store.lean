import SorobanDeploy.Host.Replace
import SorobanDeploy.StateFile.Grammar
import SorobanDeploy.StateFile.Update

/-!
# The state file on a host

Reading gives the values of a state file, and none if there is no file. Writing makes the file and
the directories above it if they are missing, and replaces the file in one step.
-/

namespace SorobanDeploy.StateFile

variable {σ : Type}

open Act

/-- The logger of the state file. -/
def logger : String := "inheritx_deploy.state"

/-- The logger of the reader of statements. -/
def readerLogger : String := "dotenv.main"

/-- The text of the state file as the reader of statements gets it. What is there but neither a file
nor a stream reads as empty. -/
def text (path : Path) : Act σ (List Char) := do
  match ← Files.entry? path.text with
  | some (.file _) | some (.program _) => Files.readText path.text
  | some (.stream early _) => Files.textOf early
  | _ => pure []

/-- A state file that cannot be read is a matter of configuration. -/
def unreadable (path : Path) (e : Failure) : Failure :=
  if e.isA .system ∨ e.isA .undecodable then
    (Problem.unreadableState path.text e.message).because e
  else e

/-- Logs each statement that cannot be read. -/
def reportMalformed : List Nat → Act σ Unit
  | [] => pure ()
  | n :: rest => do
    log Log.warning readerLogger
      ("python-dotenv could not parse statement starting at line " ++ toString n)
    reportMalformed rest

/-- The values of the state file. -/
def load (path : Path) : Act σ (Pairs String String) := do
  if ← Files.exists? path.text then
    let found := statements (← mapFailure (unreadable path) (text path))
    reportMalformed (malformedLines found)
    pure (valuesOf found)
  else pure []

/-- Makes an empty state file, and the directories above it, unless something is there. -/
def ensure (path : Path) : Act σ Unit := do
  if ← Files.exists? path.text then pure ()
  else
    Files.ensureDirectories path.root path.parent.names
    Files.touch path.text

/-- Writes values into the state file. -/
def upsert (path : Path) (values : Pairs String String) : Act σ Unit := do
  -- The file is read after it was made, so that a new one is replaced like an old one.
  ensure path
  let old ← Files.readText path.text
  Files.replace path (Text.Utf8.encode (updated old values))
  log Log.debug logger ("Wrote " ++ toString values.length ++ " key(s) to " ++ path.text)

end SorobanDeploy.StateFile
