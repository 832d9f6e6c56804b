/-!
# Classes of failures

A class has a name and the names of the classes above it; what handles a failure asks only for
these. Here are the classes of the system, those of the transport of requests, and the tool's own. A
failure to save is one of the system as well, and so is a failure to reach the network.
-/

namespace SorobanDeploy

/-- A class of failures. -/
structure FailureClass where
  name : String
  above : List String
  deriving DecidableEq, Repr

namespace FailureClass

/-- A list without the later of equal items. -/
def distinct : List String → List String
  | [] => []
  | x :: xs => x :: (distinct xs).filter (· ≠ x)

/-- A class right below others. -/
def under (parents : List FailureClass) (name : String) : FailureClass :=
  ⟨name, distinct (parents.flatMap fun p => p.name :: p.above)⟩

/-- Whether failures of a class are handled where those of the other are. -/
def isA (c d : FailureClass) : Bool :=
  c.name = d.name || c.above.contains d.name

/-- The names of the classes above a class, sorted. -/
def sortedAbove (c : FailureClass) : List String :=
  c.above.mergeSort (· ≤ ·)

/-! ## The system's classes -/

/-- All failures but interruptions and the end of the program. -/
def ordinary : FailureClass := under [] "Exception"

/-- A failure that is not ordinary and nothing else. -/
def base : FailureClass := under [] "BaseException"

/-- The end of the program. -/
def exit : FailureClass := under [] "SystemExit"

/-- An interruption from the keyboard. -/
def interrupt : FailureClass := under [] "KeyboardInterrupt"

/-- A value that cannot be used. -/
def badValue : FailureClass := under [ordinary] "ValueError"

/-- Text that cannot be encoded or decoded. -/
def badText : FailureClass := under [badValue] "UnicodeError"

/-- Octets that are no text. -/
def undecodable : FailureClass := under [badText] "UnicodeDecodeError"

/-- Text that has no octets. -/
def unencodable : FailureClass := under [badText] "UnicodeEncodeError"

/-- Text that has no other form. -/
def untranslatable : FailureClass := under [badText] "UnicodeTranslateError"

/-- A value that has no such part. -/
def missingPart : FailureClass := under [ordinary] "AttributeError"

/-- A number out of range. -/
def overflow : FailureClass := under [under [ordinary] "ArithmeticError"] "OverflowError"

/-- A program text that cannot be read. -/
def badSyntax : FailureClass := under [ordinary] "SyntaxError"

/-- Several failures at once. -/
def group : FailureClass := under [] "BaseExceptionGroup"

/-- A document that is not JSON. -/
def badJson : FailureClass := under [badValue] "JSONDecodeError"

/-- A value of the wrong kind. -/
def badKind : FailureClass := under [ordinary] "TypeError"

/-- A look-up that finds nothing. -/
def lookup : FailureClass := under [ordinary] "LookupError"

/-- A key that is not there. -/
def missingKey : FailureClass := under [lookup] "KeyError"

/-- A failure at run time. -/
def runtime : FailureClass := under [ordinary] "RuntimeError"

/-- Nesting that goes too deep. -/
def tooDeep : FailureClass := under [runtime] "RecursionError"

/-- A request that the system refuses. -/
def system : FailureClass := under [ordinary] "OSError"

/-- A request that would have to wait. -/
def blocking : FailureClass := under [system] "BlockingIOError"

/-- A connection that fails. -/
def connection : FailureClass := under [system] "ConnectionError"

/-- A program that ends with another status than zero. -/
def badStatus : FailureClass := under [under [ordinary] "SubprocessError"] "CalledProcessError"

/-- The classes that the system has for some of its error numbers. -/
def ofErrorNumber (n : Int) : FailureClass :=
  if n = 1 ∨ n = 13 then under [system] "PermissionError"
  else if n = 2 then under [system] "FileNotFoundError"
  else if n = 3 then under [system] "ProcessLookupError"
  else if n = 4 then under [system] "InterruptedError"
  else if n = 10 then under [system] "ChildProcessError"
  else if n = 11 ∨ n = 114 ∨ n = 115 then blocking
  else if n = 17 then under [system] "FileExistsError"
  else if n = 20 then under [system] "NotADirectoryError"
  else if n = 21 then under [system] "IsADirectoryError"
  else if n = 32 ∨ n = 108 then under [connection] "BrokenPipeError"
  else if n = 103 then under [connection] "ConnectionAbortedError"
  else if n = 104 then under [connection] "ConnectionResetError"
  else if n = 110 then under [system] "TimeoutError"
  else if n = 111 then under [connection] "ConnectionRefusedError"
  else system

/-! ## The tool's own classes -/

/-- Every failure of the tool. -/
def pipeline : FailureClass := under [ordinary] "PipelineError"

/-- What was asked for cannot be done. -/
def configuration : FailureClass := under [pipeline, badValue] "ConfigurationError"

/-- No address can be derived for an identity. -/
def identity : FailureClass := under [pipeline, lookup] "IdentityResolutionError"

/-- A contract cannot be built. -/
def build : FailureClass := under [pipeline, runtime] "BuildError"

/-- A contract cannot be deployed. -/
def deployment : FailureClass := under [pipeline, runtime] "DeploymentError"

/-- The contract cannot be initialized. -/
def initialization : FailureClass := under [pipeline, runtime] "InitializationError"

/-- The contract IDs cannot be saved. -/
def persistence : FailureClass := under [pipeline, system] "PersistenceError"

/-- The network cannot be checked. -/
def networkCheck : FailureClass := under [pipeline, connection] "NetworkCheckError"

/-- A command of the client fails. -/
def command : FailureClass := under [pipeline, runtime] "ClientCommandError"

/-! ## The transport's classes -/

/-- Every failure of the transport. -/
def transport : FailureClass := under [system] "RequestException"

/-- An address without a scheme. -/
def missingScheme : FailureClass := under [transport, badValue] "MissingSchema"

/-- An address with a scheme that nothing serves. -/
def badScheme : FailureClass := under [transport, badValue] "InvalidSchema"

/-- An address that is no address. -/
def badUrl : FailureClass := under [transport, badValue] "InvalidURL"

/-- A body that ends before its announced length, or should not be there. -/
def brokenBody : FailureClass := under [transport] "ChunkedEncodingError"

/-- No connection to the server. -/
def noConnection : FailureClass := under [transport] "ConnectionError"

/-- The server did not answer in time. -/
def timeout : FailureClass := under [transport] "Timeout"

/-- The transport's classes. Some share their name with one of the system's. -/
def transportTable : List FailureClass := [
  transport, missingScheme, badScheme, badUrl, brokenBody, noConnection, timeout,
  under [badUrl] "InvalidProxyURL", under [transport, badValue] "InvalidHeader",
  under [transport] "InvalidJSONError",
  under [under [transport] "InvalidJSONError", badJson] "JSONDecodeError",
  under [transport] "HTTPError",
  under [noConnection] "ProxyError", under [noConnection] "SSLError",
  under [noConnection, timeout] "ConnectTimeout", under [timeout] "ReadTimeout",
  under [transport] "URLRequired", under [transport] "TooManyRedirects",
  under [transport, under [ordinary] "HTTPError"] "ContentDecodingError",
  under [transport, badKind] "StreamConsumedError", under [transport] "RetryError",
  under [transport] "UnrewindableBodyError"]

/-- The system's classes and the tool's. -/
def table : List FailureClass :=
  [base, ordinary, interrupt, exit, badValue, badText, undecodable, unencodable, untranslatable,
    badJson, badKind, lookup, missingKey, missingPart, overflow, badSyntax, group,
    under [group, ordinary] "ExceptionGroup", runtime, tooDeep, system, connection, badStatus,
    pipeline, configuration, identity, build, deployment, initialization, persistence,
    networkCheck, command]
  ++ ([1, 2, 3, 4, 10, 11, 17, 20, 21, 32, 103, 104, 110, 111].map ofErrorNumber)
  ++ [under [] "GeneratorExit"]
  ++ (["ArithmeticError", "AssertionError", "BufferError", "EOFError",
    "ImportError", "MemoryError", "NameError", "ReferenceError", "StopAsyncIteration",
    "StopIteration", "SystemError", "Warning", "SubprocessError"].map
      (under [ordinary]))
  ++ (["FloatingPointError", "ZeroDivisionError"].map
    (under [under [ordinary] "ArithmeticError"]))
  ++ [under [lookup] "IndexError", under [under [ordinary] "ImportError"] "ModuleNotFoundError",
    under [under [ordinary] "NameError"] "UnboundLocalError", under [runtime] "NotImplementedError",
    under [badSyntax] "IndentationError",
    under [under [badSyntax] "IndentationError"] "TabError"]
  ++ (["BytesWarning", "DeprecationWarning", "EncodingWarning", "FutureWarning", "ImportWarning",
    "PendingDeprecationWarning", "ResourceWarning", "RuntimeWarning", "SyntaxWarning",
    "UnicodeWarning", "UserWarning"].map (under [under [ordinary] "Warning"]))

/-- A class of the system or of the tool by name. An unknown name is a class of its own. -/
def named (name : String) : FailureClass :=
  if name = "IOError" ∨ name = "EnvironmentError" then system
  else (table.find? (·.name = name)).getD (under [ordinary] name)

/-- Classes that the transport knows under names of its own, and its warnings. -/
def transportNames : List (String × FailureClass) :=
  let warning := under [under [ordinary] "Warning"] "RequestsWarning"
  [("BaseHTTPError", under [ordinary] "HTTPError"), ("CompatJSONDecodeError", badJson),
    ("RequestsWarning", warning),
    ("FileModeWarning", under [warning, named "DeprecationWarning"] "FileModeWarning"),
    ("RequestsDependencyWarning", under [warning] "RequestsDependencyWarning")]

/-- A class by name, where the transport is asked first. -/
def namedInTransport (name : String) : FailureClass :=
  match transportTable.find? (·.name = name) with
  | some c => c
  | none => ((transportNames.find? (·.1 = name)).map (·.2)).getD (named name)

end FailureClass

end SorobanDeploy
