import SorobanDeploy.CommandLine.Options
import SorobanDeploy.Number.Whole
import SorobanDeploy.Text.Wrap

/-!
# The help text

The lines that tell how the program is used, for a console of some width. The usage names all
options in brackets, and is broken between them if it is too long for one line. The help text
explains each option in a column beside it, or below it if the option is too long.
-/

namespace SorobanDeploy.CommandLine

/-- The name of the program. -/
def programName : String := "inheritx-deploy"

/-- What the program does. -/
def summary : String := "Build, deploy and initialize the InheritX contracts."

namespace Flag

/-- The name of the value of an option. -/
def valueName? : Flag → Option String
  | network => some "NETWORK"
  | admin => some "IDENTITY"
  | stateFile => some "STATE_FILE"
  | stellarBin => some "STELLAR_BIN"
  | help | checkRpc | verbose => none

/-- What an option is for. -/
def explanation : Flag → String
  | help => "show this help message and exit"
  | network =>
    "Network to deploy to (" ++ "/".intercalate NetworkProfile.supported ++ "). Default: "
      ++ defaultNetwork.text
  | admin =>
    "Name of the stellar-cli identity used to deploy and initialize the contracts. (MANDATORY) "
      ++ "Create it first using: stellar keys add <identity>"
  | stateFile => "KEY=VALUE file the contract IDs are written to. Default: ./.env"
  | stellarBin => "stellar CLI executable. Default: $STELLAR_BIN or 'stellar'"
  | checkRpc => "Verify the RPC endpoint serves the expected network before building"
  | verbose => "Enable debug logging"

/-- A spelling of an option with the name of its value. -/
def withValue (f : Flag) (spelling : String) : String :=
  match f.valueName? with
  | some name => spelling ++ " " ++ name
  | none => spelling

/-- All spellings of an option. -/
def heading (f : Flag) : String := ", ".intercalate (f.spellings.map f.withValue)

/-- An option in the usage. -/
def bracketed (f : Flag) : String := "[" ++ f.withValue (f.spellings.headD "") ++ "]"

end Flag

/-! ## The width -/

/-- The variable of the environment that gives the width of the console. -/
def widthVariable : String := "COLUMNS"

/-- The width of a console whose width is not known. -/
def defaultWidth : Int := 80

/-- The width that text may take: the width of the console but for two columns. -/
def textWidth (env : Pairs String String) : Int :=
  let console := ((Pairs.get? widthVariable env).bind wholeNumber?).getD 0
  (if console ≤ 0 then defaultWidth else console) - 2

/-- A number of blanks. -/
def blanks (n : Nat) : String := String.ofList (List.replicate n ' ')

/-! ## The usage -/

/-- What the usage begins with. -/
def usageMark : String := "usage: "

/-- Parts in lines of a width with an indent. The first line has `taken` columns taken already and
no indent. Every line has one part at least. -/
def partLines (width : Int) (indent taken : Nat) (parts : List String) : List String :=
  let start (n : Nat) : Int := (n : Int) - 1
  let (full, line, _) := parts.foldl (fun (full, line, size) (part : String) =>
    let more : Int := part.length + 1
    if width < size + more ∧ line ≠ [] then
      (full ++ [" ".intercalate line], [part], start indent + more)
    else (full, line ++ [part], size + more))
    (([], [], start taken) : List String × List String × Int)
  match full ++ [" ".intercalate line] with
  | [] => []
  | first :: rest => first :: rest.map (blanks indent ++ ·)

/-- How the program is called. -/
def usage (width : Int) : String :=
  let parts := Flag.all.map Flag.bracketed
  let line := " ".intercalate (programName :: parts)
  let lines :=
    if (usageMark.length + line.length : Int) ≤ width then [line]
    -- The options stand beside the name of the program if that leaves a quarter of the line.
    else if 4 * (usageMark.length + programName.length : Int) ≤ 3 * width then
      partLines width (usageMark.length + programName.length + 1) usageMark.length
        (programName :: parts)
    else
      let indent := usageMark.length
      programName :: ((partLines width indent indent parts).zipIdx.map fun (l, i) =>
        if i = 0 then blanks indent ++ l else l)
  usageMark ++ "\n".intercalate lines ++ "\n"

/-! ## The help text -/

/-- The least width of a column of text. -/
def leastColumn : Int := 11

/-- The lines of a text in a column of a width. -/
def columnLines (width : Int) (s : String) : List String :=
  Text.fill (if width < leastColumn then leastColumn else width).toNat s

/-- Where explanations begin: behind the longest option, but not too far to the right. -/
def explanationColumn (width : Int) : Nat :=
  let longest := (Flag.all.map fun f => f.heading.length + 4).foldl (fun m n => max m n) 0
  let furthest := min 24 (max (width - 20) 4).toNat
  min longest furthest

/-- The lines on one option. -/
def optionLines (width : Int) (f : Flag) : List String :=
  let column := explanationColumn width
  let lines := columnLines (width - column) f.explanation
  let heading := "  " ++ f.heading
  if heading.length + 2 ≤ column then
    match lines with
    | [] => [heading]
    | first :: rest =>
      (heading ++ blanks (column - heading.length) ++ first) :: rest.map (blanks column ++ ·)
  else heading :: lines.map (blanks column ++ ·)

/-- The whole help text. -/
def help (width : Int) : String :=
  let lines := "" :: columnLines width summary ++ ["", "options:"]
    ++ Flag.all.flatMap (optionLines width)
  usage width ++ String.join (lines.map (· ++ "\n"))

end SorobanDeploy.CommandLine
