import SorobanDeploy.Network
import SorobanDeploy.Text.Digit
import SorobanDeploy.Text.Quoted

/-!
# Options

The words of a command line become options. First each word is classed: an option, a word that looks
like one, a plain word, or the separator after which all words are plain. Then the options are taken
from left to right with their values. A long option may be shortened as long as it is the only one
that begins so; short options may be written together. A value that is joined to its option and
reads as the separator is dropped, and leaves the option without any text.
-/

namespace SorobanDeploy.CommandLine

/-- The options there are. -/
inductive Flag where
  | help
  | network
  | admin
  | stateFile
  | stellarBin
  | checkRpc
  | verbose
  deriving DecidableEq, Repr

namespace Flag

/-- All options, in the order of the help text. -/
def all : List Flag := [help, network, admin, stateFile, stellarBin, checkRpc, verbose]

/-- How an option is written. -/
def spellings : Flag → List String
  | help => ["-h", "--help"]
  | network => ["--network"]
  | admin => ["--admin"]
  | stateFile => ["--state-file"]
  | stellarBin => ["--stellar-bin"]
  | checkRpc => ["--check-rpc"]
  | verbose => ["-v", "--verbose"]

/-- Whether an option needs a value. -/
def takesValue : Flag → Bool
  | network | admin | stateFile | stellarBin => true
  | help | checkRpc | verbose => false

/-- How messages name an option. -/
def label (f : Flag) : String := "/".intercalate f.spellings

/-- Every spelling with its option. -/
def spelled : List (String × Flag) :=
  all.flatMap fun f => f.spellings.map fun s => (s, f)

/-- The option of a spelling. -/
def ofSpelling? (s : String) : Option Flag :=
  (spelled.find? (·.1 = s)).map (·.2)

end Flag

/-- The value of an option. -/
inductive OptionValue where
  | text (s : String)
  /-- Nothing is left of a value that reads as the separator. -/
  | dropped
  deriving DecidableEq, Repr

namespace OptionValue

/-- The word after which all words are plain. -/
def separator : String := "--"

/-- The value that a text gives. -/
def ofText (s : String) : OptionValue := if s = separator then dropped else text s

/-- The text of a value, if it is one. -/
def text? : OptionValue → Option String
  | text s => some s
  | dropped => none

end OptionValue

/-- What the options say. -/
structure Options where
  network : OptionValue
  admin : Option OptionValue
  stateFile : Option OptionValue
  stellarBin : Option OptionValue
  checkRpc : Bool
  verbose : Bool
  deriving DecidableEq, Repr

namespace Options

/-- The options of an empty command line. -/
def empty : Options := ⟨.text defaultNetwork.text, none, none, none, false, false⟩

/-- The options with one more that has a value. -/
def set (o : Options) (value : OptionValue) : Flag → Options
  | .network => { o with network := value }
  | .admin => { o with admin := some value }
  | .stateFile => { o with stateFile := some value }
  | .stellarBin => { o with stellarBin := some value }
  | .help | .checkRpc | .verbose => o

/-- The options with one more that has no value. -/
def turnOn (o : Options) : Flag → Options
  | .checkRpc => { o with checkRpc := true }
  | .verbose => { o with verbose := true }
  | .help | .network | .admin | .stateFile | .stellarBin => o

end Options

/-- Why a command line is refused. -/
inductive UsageError where
  | ambiguous (word : String) (matching : List String)
  | missingValue (flag : Flag)
  | unwantedValue (flag : Flag) (value : String)
  | unrecognized (words : List String)
  deriving DecidableEq, Repr

/-- The refusal in words. -/
def UsageError.message : UsageError → String
  | ambiguous word matching =>
    "ambiguous option: " ++ word ++ " could match " ++ ", ".intercalate matching
  | missingValue flag => "argument " ++ flag.label ++ ": expected one argument"
  | unwantedValue flag value =>
    "argument " ++ flag.label ++ ": ignored explicit argument " ++ Text.quoted value
  | unrecognized words => "unrecognized arguments: " ++ " ".intercalate words

/-! ## Classing words -/

/-- A word of the command line. -/
inductive Word where
  /-- An option as it was written out or shortened, perhaps with a value in the same word. -/
  | option (flag : Flag) (short : Bool) (value : Option String)
  /-- A word that looks like an option and is none. -/
  | unknown (text : String)
  | plain (text : String)
  /-- The word after which all words are plain. -/
  | separator
  deriving DecidableEq, Repr

/-- What stands before the first equals sign of a word, and what stands after it. -/
def splitValue (cs : List Char) : List Char × Option (List Char) :=
  (cs.takeWhile (· ≠ '='), match cs.dropWhile (· ≠ '=') with
    | [] => none
    | _ :: value => some value)

/-- Whether digits stand here, and nothing behind them but perhaps one line end. -/
def areDigits (cs : List Char) : Bool :=
  !(cs.takeWhile Text.isDecimal).isEmpty
    && (cs.dropWhile Text.isDecimal = [] || cs.dropWhile Text.isDecimal = ['\n'])

/-- Whether a word is a negative number: digits of any script, or digits around a point with one
after it. -/
def isNegativeNumber : List Char → Bool
  | '-' :: cs =>
    match cs.dropWhile Text.isDecimal with
    | '.' :: fraction => areDigits fraction
    | _ => areDigits cs
  | _ => false

/-- Whether a spelling has one dash. -/
def isShort (spelling : String) : Bool := !("--".isPrefixOf spelling)

/-- The options that a word can mean when it may be shortened or joined with what follows: each with
its spelling and its value. -/
def readings (cs : List Char) : List (String × Flag × Option String) :=
  match cs with
  | '-' :: '-' :: _ =>
    let (name, value) := splitValue cs
    (Flag.spelled.filter fun p => name.isPrefixOf p.1.toList).map fun p =>
      (p.1, p.2, value.map String.ofList)
  | '-' :: c :: rest =>
    (Flag.spelled.filter fun p => p.1.toList = ['-', c]).map fun p =>
      (p.1, p.2, some (String.ofList rest))
  | _ => []

/-- The class of a word that is written out in full, without a value or with one. -/
def exactly? (word : String) : Option Word :=
  match Flag.ofSpelling? word with
  | some f => some (.option f (isShort word) none)
  | none =>
    match splitValue word.toList with
    | (_, none) => none
    | (name, some value) =>
      (Flag.ofSpelling? (String.ofList name)).map fun f =>
        .option f (isShort (String.ofList name)) (some (String.ofList value))

/-- The class of a word before the separator. -/
def classWord (word : String) : Except UsageError Word :=
  let cs := word.toList
  if cs.head? ≠ some '-' then .ok (.plain word)
  else
    match exactly? word with
    | some w => .ok w
    | none =>
      if cs.length = 1 then .ok (.plain word)
      else
        -- A shortened option, or short ones written together.
        match readings cs with
        | [(spelling, f, value)] => .ok (.option f (isShort spelling) value)
        | _ :: _ :: _ => .error (.ambiguous word ((readings cs).map (·.1)))
        | [] =>
          if isNegativeNumber cs || cs.contains ' ' then .ok (.plain word) else .ok (.unknown word)

/-- The classes of the words of a command line. -/
def classWords : List String → Except UsageError (List Word)
  | [] => .ok []
  | word :: rest =>
    if word = OptionValue.separator then .ok (.separator :: rest.map .plain)
    else do
      let w ← classWord word
      pure (w :: (← classWords rest))

/-! ## Taking options -/

/-- Short options written together, from one of them and the letters after it. -/
def bundle (flag : Flag) : List Char → Except UsageError (List Flag)
  | [] => .ok [flag]
  | c :: rest =>
    match Flag.ofSpelling? (String.ofList ['-', c]) with
    | some next => (bundle next rest).map (flag :: ·)
    | none => .error (.unwantedValue flag (String.ofList (c :: rest)))

/-- What a command line asks for. -/
inductive Parsed where
  /-- The help text. -/
  | help
  | options (o : Options)
  deriving DecidableEq, Repr

/-- The options with some more that have no value, or nothing if one of them asks for help. -/
def turnOnAll (o : Options) : List Flag → Option Options
  | [] => some o
  | .help :: _ => none
  | f :: rest => turnOnAll (o.turnOn f) rest

/-- The options of words, after some options and some words that no option takes. -/
def take (o : Options) (extras : List String) : List Word → Except UsageError Parsed
  | [] => if extras.isEmpty then .ok (.options o) else .error (.unrecognized extras)
  | .plain text :: rest => take o (extras ++ [text]) rest
  | .unknown text :: rest => take o (extras ++ [text]) rest
  | .separator :: rest => take o (extras ++ [OptionValue.separator]) rest
  | .option f short (some value) :: rest =>
    if f.takesValue then take (o.set (.ofText value) f) extras rest
    -- What is written after a short option without a value are more of them.
    else if short && !value.isEmpty then
      match bundle f value.toList with
      | .error e => .error e
      | .ok flags =>
        match turnOnAll o flags with
        | some o => take o extras rest
        | none => .ok .help
    else .error (.unwantedValue f value)
  | .option f _ none :: .plain value :: rest =>
    if f.takesValue then take (o.set (.text value) f) extras rest
    else match turnOnAll o [f] with
      | some o => take o (extras ++ [value]) rest
      | none => .ok .help
  | .option f _ none :: rest =>
    if f.takesValue then .error (.missingValue f)
    else match turnOnAll o [f] with
      | some o => take o extras rest
      | none => .ok .help

/-- What a command line asks for, or why it is refused. -/
def parse (words : List String) : Except UsageError Parsed := do
  take .empty [] (← classWords words)

end SorobanDeploy.CommandLine
