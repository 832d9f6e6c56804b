import SorobanDeploy.Host.Files
import SorobanDeploy.Text.Blank

/-!
# The client on the command line

A client that answers each call by running the `stellar` program. The program is looked for anew for
each command: a name with a slash is a path from the working directory, and any other name is looked
for in the directories of the search path. What the program writes is text with folded newlines; the
line ends at the end of its output are not part of the answer.
-/

namespace SorobanDeploy.StellarCli

variable {σ : Type}

/-- The logger of the client. -/
def logger : String := "inheritx_deploy.client"

/-- The program that is run unless another one is asked for. -/
def defaultBinary : String := "stellar"

/-- The variable of the environment that names the program. -/
def binaryVariable : String := "STELLAR_BIN"

/-- The program to run: the one given, or the one that the environment names, or the default. -/
def binaryFor (given : Option String) (env : Pairs String String) : String :=
  given.getD ((Pairs.get? binaryVariable env).getD defaultBinary)

/-- How a program ended: what it wrote, and its status, which is negative if a signal ended it. -/
structure Exit where
  stdout : Text.Octets
  stderr : Text.Octets
  status : Int
  deriving DecidableEq, Repr

/-- What running a program does. -/
abbrev Programs (σ : Type) := Launch → σ → Exit × σ

/-! ## Finding the program -/

/-- A name in a directory of the search path. An empty directory is the working directory. -/
def inSearchDirectory (name dir : String) : String :=
  if dir.isEmpty then name
  else if dir.endsWith "/" then dir ++ name
  else dir ++ "/" ++ name

/-- The search path: the one of the environment, or the usual one of the system. -/
def searchPath (env : Pairs String String) : String :=
  (Pairs.get? "PATH" env).getD "/bin:/usr/bin"

/-- The directories of a search path. -/
def searchDirectories (path : String) : List String :=
  (Text.splitOn ':' path.toList).map String.ofList

/-- The files that a name can mean, in the order in which they are tried. -/
def candidates (env : Pairs String String) (binary : String) : List String :=
  if binary.toList.contains '/' then [binary]
  else (searchDirectories (searchPath env)).map (inSearchDirectory binary)

/-- Whether the file at the end of a path can be run. -/
def execute (h : Host σ) (path : String) : Except Refusal Unit :=
  match h.tree.status h.cwd path with
  | .ok (_, .program _) => .ok ()
  | .ok _ => .error .accessDenied
  | .error r => .error r

/-- The first candidate that can be run. If there is none, the first refusal counts that says more
than that a candidate is missing, or else the last one. -/
def firstRunnable (h : Host σ) (kept : Option Refusal) (last : Refusal) :
    List String → Except Refusal String
  | [] => .error (kept.getD last)
  | path :: rest =>
    match execute h path with
    | .ok () => .ok path
    | .error r =>
      let missing := r = .noEntry ∨ r = .notDirectory
      firstRunnable h (kept.or (if missing then none else some r)) r rest

/-- The file that a name runs. -/
def locate (h : Host σ) (binary : String) : Except Refusal String :=
  firstRunnable h none .noEntry (candidates h.env binary)

/-! ## Running it -/

/-- What a program wrote, as text. -/
def readOutput (bs : Text.Octets) : Except Failure (List Char) :=
  match Text.Utf8.decode bs with
  | .ok cs => .ok (Text.foldNewlines cs)
  | .error m => .error (.plain .undecodable m.message)

/-- A text without the line ends at its end. -/
def dropLineEnds (cs : List Char) : List Char :=
  (cs.reverse.dropWhile fun c => c = '\n' || c = '\r').reverse

/-- The failure of a command that ended with another status than zero. -/
def failedCommand (words : List String) (status : Int) (stderr : String) : Failure :=
  let problem := Problem.commandFailed (" ".intercalate words) status stderr
  .of problem.kind problem.message
    (some (.plain .badStatus ("Command returned non-zero exit status " ++ toString status)))
    (.command ⟨words, some status, stderr⟩)

/-- The failure of a command whose program does not exist. -/
def missingProgram (binary : String) (words : List String) : Failure :=
  let problem := Problem.programMissing binary
  .of problem.kind problem.message (some (Files.refusalAt .noEntry binary))
    (.command ⟨words, none, ""⟩)

/-- The answer of a command: what it wrote, or its failure. -/
def Exit.answer (words : List String) (e : Exit) : Except Failure String := do
  -- The output has to be text even if the command failed.
  let out ← readOutput e.stdout
  let err ← readOutput e.stderr
  if e.status = 0 then pure (String.ofList (dropLineEnds out))
  else throw (failedCommand words e.status (Text.strip (String.ofList err)))

/-- Runs the program with some words. -/
def run (programs : Programs σ) (binary : String) (arguments : List String) (h : Host σ) :
    Reply σ String :=
  let words := binary :: arguments
  let shown : Note := .record ⟨Log.debug, logger, "> " ++ " ".intercalate words⟩
  if words.any Files.hasNul then ⟨.error Files.nulFailure, h, [shown]⟩
  else
    match locate h binary with
    | .error .noEntry => ⟨.error (missingProgram binary words), h, [shown]⟩
    | .error r => ⟨.error (Files.refusalAt r binary), h, [shown]⟩
    | .ok program =>
      let launch : Launch := ⟨program, arguments, h.cwd.path?.map Path.text⟩
      let (exit, outside) := programs launch h.outside
      ⟨exit.answer words, { h with outside := outside }, [shown, .launch launch]⟩

/-! ## The commands -/

/-- The words that choose a network and the account that pays. -/
def networkWords (profile : NetworkProfile) (identity : String) : List String :=
  ["--rpc-url", profile.rpcUrl, "--network-passphrase", profile.passphrase,
    "--source-account", identity]

/-- The words of a call. -/
def commandWords : Call → List String
  | .resolveAddress identity => ["keys", "address", identity]
  | .fund identity network => ["keys", "fund", identity, "--network", network]
  | .build package optimize =>
    ["contract", "build"] ++ (package.map fun p => ["--package", p]).getD []
      ++ (if optimize then ["--optimize"] else [])
  | .deploy wasm profile identity =>
    ["contract", "deploy", "--wasm", wasm] ++ networkWords profile identity
  | .invoke contractId function arguments profile identity =>
    ["contract", "invoke", "--id", contractId] ++ networkWords profile identity ++ ["--", function]
      ++ arguments.flatMap fun p => ["--" ++ p.1, p.2]

/-- Whether the output of the program is the answer to a call. -/
def answersText : Call → Bool
  | .fund .. | .build .. => false
  | _ => true

/-- The client that runs a program. -/
def client (programs : Programs σ) (binary : String) : Client σ := fun call h =>
  let reply := run programs binary (commandWords call) h
  { answer := reply.answer.map fun s => if answersText call then some s else none
    host := reply.host
    notes := reply.notes }

/-- The client whose program has no name: none of its commands can be written down. -/
def nameless : Client σ := fun _ h =>
  ⟨.error (.plain .badKind "sequence item 0: expected str instance, list found"), h, []⟩

end SorobanDeploy.StellarCli
