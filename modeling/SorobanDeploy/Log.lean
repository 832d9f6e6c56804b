/-!
# Log records

A record has a level, the name of its logger and a message. What a log shows is decided by the
threshold of the log and by whether it has handlers of its own.
-/

namespace SorobanDeploy.Log

/-- How important a record is; less than nothing is allowed. -/
abbrev Level := Int

/-- For finding faults. -/
def debug : Level := 10

/-- What happens. -/
def info : Level := 20

/-- What went wrong without stopping the run. -/
def warning : Level := 30

/-- The name of a level. -/
def levelName (level : Level) : String :=
  match level with
  | 0 => "NOTSET"
  | 10 => "DEBUG"
  | 20 => "INFO"
  | 30 => "WARNING"
  | 40 => "ERROR"
  | 50 => "CRITICAL"
  | n => "Level " ++ toString n

/-- One record. -/
structure Record where
  level : Level
  logger : String
  message : String
  deriving DecidableEq, Repr

/-- The logger that stands above all others. -/
def rootLogger : String := "root"

/-- The record of a logger by name; without a name it is the root. -/
def Record.of (level : Level) (name message : String) : Record :=
  ⟨level, if name.isEmpty then rootLogger else name, message⟩

/-- The line of a record, under the given time. -/
def Record.line (time : String) (r : Record) : String :=
  time ++ " [" ++ levelName r.level ++ "] " ++ r.logger ++ ": " ++ r.message ++ "\n"

/-- How a handler writes a record. -/
inductive Layout where
  /-- The message alone. -/
  | bare
  /-- Time, level, logger and message. -/
  | full
  deriving DecidableEq, Repr

/-- A log: the least level that passes, and a layout for each handler. -/
structure Settings where
  threshold : Level
  handlers : List Layout
  deriving DecidableEq, Repr

/-- The log with a new threshold; it gets a handler with the full layout if it has none. -/
def Settings.configure (s : Settings) (level : Level) : Settings :=
  { threshold := level, handlers := if s.handlers.isEmpty then [.full] else s.handlers }

/-- What one handler writes. -/
def Layout.write (time : String) (r : Record) : Layout → String
  | .bare => r.message ++ "\n"
  | .full => r.line time

/-- Whether a record passes the threshold. One of level zero or below never does. -/
def Settings.admits (s : Settings) (r : Record) : Bool :=
  0 < r.level && s.threshold ≤ r.level

/-- What a record prints: one text for each handler if it passes the threshold. A log without
handlers prints the message of what is at least a warning. -/
def Settings.print (s : Settings) (time : String) (r : Record) : String :=
  if !s.admits r then ""
  else if s.handlers.isEmpty then (if warning ≤ r.level then r.message ++ "\n" else "")
  else String.join (s.handlers.map (Layout.write time r))

end SorobanDeploy.Log
