import SorobanDeploy.CommandLine.Run
import Std.Time.Format

/-!
# The program

The outer layer: words, environment, time, and the state file come from the system, and what the run
prints goes back to it. The host of the run has the working directory and the state file in it and
no program at all, so a run that gets as far as its first command says that the client is missing.
-/

namespace SorobanDeploy.Program

/-- The variables of the environment that a run reads. -/
def variablesRead : List String := ["PATH", StellarCli.binaryVariable, CommandLine.widthVariable]

/-- The environment of a run. -/
def environment : List String → IO (Pairs String String)
  | [] => pure []
  | name :: rest => do
    let others ← environment rest
    match ← IO.getEnv name with
    | some value => pure ((name, value) :: others)
    | none => pure others

/-- A tree with a directory and those above it. -/
def directoriesTo (names : List String) : Tree :=
  (List.range names.length).map fun n => (names.take (n + 1), .directory)

/-- The content of a file, if it can be read. -/
def contentOf? (path : String) : IO (Option Text.Octets) := do
  try
    pure (some (← IO.FS.readBinFile path).toList)
  catch _ => pure none

/-- The path of the state file that options ask for, seen from a directory. -/
def statePath (cwd : Path) (o : CommandLine.Options) : Path :=
  let name := (o.stateFile.bind CommandLine.OptionValue.text?).getD Workspace.stateName
  (cwd.join (.ofText name)).normalized

/-- The host of a run in a directory. -/
def hostFor (cwd : Path) (o : CommandLine.Options) : IO (Host Unit) := do
  let state := statePath cwd o
  let directories := directoriesTo cwd.names
  let tree ← match ← contentOf? state.text with
    | some content =>
      let above := (directoriesTo state.parent.names).filter fun p => !directories.contains p
      pure (directories ++ above ++ [(state.names, .file content)])
    | none => pure directories
  pure {
    tree := tree
    cwd := .live cwd.names
    env := ← environment variablesRead
    renameFault := none
    outside := () }

/-- What a run is given: no program and no server answers. -/
def surroundings : CommandLine.Surroundings Unit where
  client := none
  programs := fun _ s => (⟨[], [], 127⟩, s)
  transport := fun _ s => (.error (.plain .noConnection "no route to the server"), s)

/-- The time of day as the log writes it. -/
def now : IO String := do
  pure ((← Std.Time.PlainDateTime.now).format "uuuu-MM-dd HH:mm:ss")

/-- Prints what a run shows. -/
def present (events : List (Event Unit)) : IO Unit := do
  let (out, err) := CommandLine.console (← now) events
  (← IO.getStderr).putStr err
  (← IO.getStdout).putStr out

/-- Runs the program with some words and gives its status. -/
def run (words : List String) : IO UInt32 := do
  let options := match CommandLine.parse words with
    | .ok (.options o) => o
    | _ => .empty
  let host ← hostFor (.ofText (← IO.currentDir).toString) options
  match (CommandLine.run surroundings words).run ⟨host, []⟩ with
  | .ok ending s =>
    present s.trace
    pure (UInt32.ofNat ending.status)
  | .error e s =>
    present s.trace
    (← IO.getStderr).putStrLn (e.kind.name ++ ": " ++ e.message)
    pure 1

end SorobanDeploy.Program

/-- The program. -/
def main (words : List String) : IO UInt32 := SorobanDeploy.Program.run words
