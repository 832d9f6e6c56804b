import SorobanDeploy.Failure
import SorobanDeploy.Text.Split

/-!
# Failures made of arguments

A class makes a failure of a list of values. Most classes take any values and show them; some read
them: the system's classes an error number, a text and paths, those of texts without octets the
place of the character, and so on. Values that such a class cannot read make a failure of another
class, which says why (`Failure.raised`).
-/

namespace SorobanDeploy.Failure

/-- The text of several arguments. -/
def argumentsText : List Json → String
  | [] => ""
  | [v] => v.shown
  | vs => "(" ++ Json.innerItems vs ++ ")"

/-! ## Reading values -/

/-- A value of the wrong kind. -/
def wrongKind (message : String) : Failure := plain .badKind message

/-- The whole number of a value; a truth value counts as one. -/
def wholeOf : Json → Except Failure Int
  | .whole n => .ok n
  | .bool b => .ok (if b then 1 else 0)
  | v => .error (wrongKind ("'" ++ v.kindName ++ "' object cannot be interpreted as an integer"))

/-- Whether a number is one of a signed word. -/
def fitsWord (n : Int) : Bool :=
  decide (-9223372036854775808 ≤ n) && decide (n < 9223372036854775808)

/-- The position that a value gives. -/
def positionOf (v : Json) : Except Failure Int := do
  let n ← wholeOf v
  if fitsWord n then pure n
  else throw (plain .overflow "Python int too large to convert to C ssize_t")

/-- The text that an argument gives, by its number. -/
def textOf (number : Nat) : Json → Except Failure String
  | .text s => .ok s
  | v =>
    let kind := match v with
      | .null => "None"
      | v => v.kindName
    .error (wrongKind ("argument " ++ toString number ++ " must be str, not " ++ kind))

/-- Another number of arguments than a class takes. -/
def wrongCount (expected given : Nat) : Failure :=
  wrongKind ("function takes exactly " ++ toString expected ++ " arguments (" ++ toString given
    ++ " given)")

/-! ## Classes that read their arguments -/

/-- The message of a failure of the system: the error number, the text, and the paths if there are
some. A path that is null is none, and a number where a wait was refused is no path. -/
def systemMessage (kind : FailureClass) (args : List Json) : Except Failure String :=
  match args with
  | number :: text :: paths =>
    let start := "[Errno " ++ number.shown ++ "] " ++ text.shown
    match paths with
    | _ :: _ :: _ :: _ :: _ => .ok (argumentsText args)
    | [] | .null :: _ => .ok start
    | path :: more =>
      if kind = .blocking then
        match path with
        | .whole n =>
          if fitsWord n then .ok start
          else .error (plain .badValue "cannot fit 'int' into an index-sized integer")
        | .bool _ => .ok start
        | .real _ =>
          .error (wrongKind "'float' object cannot be interpreted as an integer")
        | path => .ok (withPaths start path more)
      else .ok (withPaths start path more)
  | args => .ok (argumentsText args)
where
  /-- The message with one path or two; the second one is the third of the paths given. -/
  withPaths (start : String) (path : Json) : List Json → String
    | [_, .null] => start ++ ": " ++ path.inner
    | [_, second] => start ++ ": " ++ path.inner ++ " -> " ++ second.inner
    | _ => start ++ ": " ++ path.inner

/-- The class of a failure made of arguments: the general class of the system is narrowed by an
error number with a text after it. -/
def narrowed (kind : FailureClass) (args : List Json) : FailureClass :=
  if kind = .system ∧ 2 ≤ args.length ∧ args.length ≤ 5 then
    match args.head? with
    | some (.whole n) => .ofErrorNumber n
    | some (.bool b) => .ofErrorNumber (if b then 1 else 0)
    | _ => kind
  else kind

/-- A character by its number, in the fewest of two, four or eight hexadecimal digits. -/
def escaped (c : Char) : String :=
  let n := c.toNat
  String.ofList ('\\' ::
    (if n < 0x100 then 'x' :: Text.hexDigits 2 n
      else if n < 0x10000 then 'u' :: Text.hexDigits 4 n
      else 'U' :: Text.hexDigits 8 n))

/-- Where the characters of a text stand that cannot be used: one character, or several. -/
def placeText (text : String) (first behind : Int) : String :=
  let several := "characters in position " ++ toString first ++ "-" ++ toString (behind - 1)
  if 0 ≤ first ∧ behind = first + 1 then
    match text.toList[first.toNat]? with
    | some c => "character '" ++ escaped c ++ "' in position " ++ toString first
    | none => several
  else several

/-- The message of a text without octets: the encoding, the text, where in it, and why. -/
def unencodableMessage : List Json → Except Failure String
  | [encoding, text, first, behind, reason] => do
    let encoding ← textOf 1 encoding
    let text ← textOf 2 text
    let first ← positionOf first
    let behind ← positionOf behind
    let reason ← textOf 5 reason
    pure ("'" ++ encoding ++ "' codec can't encode " ++ placeText text first behind ++ ": "
      ++ reason)
  | args => .error (wrongCount 5 args.length)

/-- The message of a text without another form: the text, where in it, and why. -/
def untranslatableMessage : List Json → Except Failure String
  | [text, first, behind, reason] => do
    let text ← textOf 1 text
    let first ← positionOf first
    let behind ← positionOf behind
    let reason ← textOf 4 reason
    pure ("can't translate " ++ placeText text first behind ++ ": " ++ reason)
  | args => .error (wrongCount 4 args.length)

/-- No value stands for octets, so octets that are no text are never made of values. -/
def undecodableMessage : List Json → Except Failure String
  | [encoding, octets, first, behind, reason] => do
    let _ ← textOf 1 encoding
    let _ ← positionOf first
    let _ ← positionOf behind
    let _ ← textOf 5 reason
    throw (wrongKind ("a bytes-like object is required, not '" ++ octets.kindName ++ "'"))
  | args => .error (wrongCount 5 args.length)

/-- The values that a value holds one after the other. -/
def elementsOf : Json → Except Failure (List Json)
  | .list vs => .ok vs
  | .text s => .ok (s.toList.map fun c => .text (String.ofList [c]))
  | .object members => .ok (members.map fun p => .text p.1)
  | v => .error (wrongKind ("'" ++ v.kindName ++ "' object is not iterable"))

/-- What stands behind the last slash of a path. -/
def lastName (path : String) : String :=
  String.ofList (((Text.splitOn '/' path.toList).getLast?).getD [])

/-- The place of a program text: file and line, as far as they are given. -/
def placeNote (file line : Json) : String :=
  let file := match file with
    | .text s => some (lastName s)
    | _ => none
  let line := match line with
    | .whole n => some (if fitsWord n then n else -1)
    | _ => none
  match file, line with
  | some f, some n => " (" ++ f ++ ", line " ++ toString n ++ ")"
  | some f, none => " (" ++ f ++ ")"
  | none, some n => " (line " ++ toString n ++ ")"
  | none, none => ""

/-- The message of a program text that cannot be read: what is wrong, and where. Only with two
arguments the second one gives the place. -/
def badSyntaxMessage : List Json → Except Failure String
  | [message, place] => do
    match ← elementsOf place with
    | [file, line, _, _] | [file, line, _, _, _, _] => pure (message.shown ++ placeNote file line)
    | [_, _, _, _, _] =>
      throw (wrongKind "end_offset must be provided when end_lineno is provided")
    | vs =>
      let bound := if vs.length < 4 then "least 4" else "most 6"
      throw (wrongKind ("function takes at " ++ bound ++ " arguments (" ++ toString vs.length
        ++ " given)"))
  | [] => .ok "None"
  | message :: _ => .ok message.shown

/-- The line and the column of a position in a document, where a position below zero counts from
the end. -/
def lineAndColumn (document : List Char) (position : Int) : Nat × Int :=
  let size : Int := document.length
  let bound := if position < 0 then position + size else position
  let before := document.take bound.toNat
  let onLine := (before.reverse.takeWhile (· ≠ '\n')).length
  -- The column is counted from the last line end before the position, or from the beginning.
  (before.count '\n' + 1, position - ((before.length : Int) - onLine - 1))

/-- The message of a document that is not JSON: what is wrong, the document, and where in it. -/
def badJsonMessage : List Json → Except Failure String
  | [message, document, position] => do
    let document ← match document with
      | .text s => pure s.toList
      | .list _ => throw (wrongKind "list.count() takes exactly one argument (3 given)")
      | v => throw (plain .missingPart ("'" ++ v.kindName ++ "' object has no attribute 'count'"))
    let position ← match position with
      | .whole n => pure n
      | .bool b => pure (if b then 1 else 0)
      | .null => throw (wrongKind "unsupported operand type(s) for -: 'NoneType' and 'int'")
      | _ => throw (wrongKind "slice indices must be integers or None or have an __index__ method")
    let (line, column) := lineAndColumn document position
    pure (message.shown ++ ": line " ++ toString line ++ " column " ++ toString column ++ " (char "
      ++ toString position ++ ")")
  | args =>
    .error (wrongKind ("JSONDecodeError.__init__() " ++ match args with
      | [] => "missing 3 required positional arguments: 'msg', 'doc', and 'pos'"
      | [_] => "missing 2 required positional arguments: 'doc' and 'pos'"
      | [_, _] => "missing 1 required positional argument: 'pos'"
      | args =>
        "takes 4 positional arguments but " ++ toString (args.length + 1) ++ " were given"))

/-- No value stands for a failure, so a group of failures is never made of values. -/
def groupMessage : List Json → Except Failure String
  | [message, members] => do
    match message with
    | .text _ => pure ()
    | v =>
      let kind := if v matches .null then "None" else v.kindName
      throw (wrongKind ("BaseExceptionGroup.__new__() argument 1 must be str, not " ++ kind))
    match members with
    | .list [] | .text "" =>
      throw (plain .badValue "second argument (exceptions) must be a non-empty sequence")
    | .list _ | .text _ =>
      throw (plain .badValue "Item 0 of second argument (exceptions) is not an exception")
    | _ => throw (wrongKind "second argument (exceptions) must be a sequence")
  | args =>
    .error (wrongKind ("BaseExceptionGroup.__new__() takes exactly 2 arguments ("
      ++ toString args.length ++ " given)"))

/-- The message of a failed command: its one argument. -/
def commandMessage : List Json → Except Failure String
  | [message] => .ok message.shown
  | [] =>
    .error (wrongKind
      "ClientCommandError.__init__() missing 1 required positional argument: 'message'")
  | _ =>
    .error (wrongKind "ClientCommandError.__init__() got multiple values for argument 'command'")

/-! ## Making a failure -/

/-- What a failure of a class says that is made of arguments. A missing key is quoted. -/
def argumentsMessage (kind : FailureClass) (args : List Json) : Except Failure String :=
  if kind.name = FailureClass.badJson.name then badJsonMessage args
  else if kind.isA .system then systemMessage kind args
  else if kind.isA .badSyntax then badSyntaxMessage args
  else if kind.isA .group then groupMessage args
  else if kind = .unencodable then unencodableMessage args
  else if kind = .untranslatable then untranslatableMessage args
  else if kind = .undecodable then undecodableMessage args
  else if kind = .command then commandMessage args
  else match args with
    | [v] => .ok (if kind = .missingKey then v.inner else v.shown)
    | args => .ok (argumentsText args)

/-- What else a failure of a class tells that is made of arguments: a failed command its report, and
an end of the program the status. -/
def argumentsDetail (kind : FailureClass) (args : List Json) (report : CommandReport) : Detail :=
  if kind = .command then .command report
  else if kind = .exit then
    .exit (match args with
      | [] => .null
      | [v] => v
      | vs => .list vs)
  else .nothing

/-- The failure that a class makes of arguments, or the one that says why it makes none. -/
def raised (kind : FailureClass) (args : List Json) (report : CommandReport) : Failure :=
  let kind := narrowed kind args
  match argumentsMessage kind args with
  | .ok message => of kind message none (argumentsDetail kind args report)
  | .error e => e

end SorobanDeploy.Failure
