import SorobanDeploy.Failure.Class
import SorobanDeploy.Json.Value

/-!
# Failures

A failure has a class, a message, perhaps the failure that caused it, and some details: the report
of a command that failed, or the status that an end of the program asks for.
-/

namespace SorobanDeploy

/-- What is known of a failed command: its words, its status if it ended, and what it wrote. -/
structure CommandReport where
  command : List String
  status : Option Int
  stderr : String
  deriving DecidableEq, Repr

/-- The report of a command of which nothing is known. -/
def CommandReport.empty : CommandReport := ⟨[], none, ""⟩

/-- What a failure tells besides its message. -/
inductive Detail where
  | nothing
  /-- A command failed. -/
  | command (report : CommandReport)
  /-- The program shall end with a status. -/
  | exit (status : Json)
  deriving Repr

/-- A failure. -/
inductive Failure where
  | of (kind : FailureClass) (message : String) (cause : Option Failure) (detail : Detail)
  deriving Repr

namespace Failure

/-- The class of a failure. -/
def kind : Failure → FailureClass
  | of k _ _ _ => k

/-- What a failure says. -/
def message : Failure → String
  | of _ m _ _ => m

/-- The failure that it was raised from. -/
def cause : Failure → Option Failure
  | of _ _ c _ => c

/-- What a failure tells besides. -/
def detail : Failure → Detail
  | of _ _ _ d => d

/-- The report of the command that failed. -/
def report (e : Failure) : CommandReport :=
  match e.detail with
  | .command r => r
  | _ => .empty

/-- The status that an end of the program asks for. -/
def exitStatus? (e : Failure) : Option Json :=
  match e.detail with
  | .exit status => some status
  | _ => none

/-- A failure without a cause. -/
def plain (kind : FailureClass) (message : String) : Failure :=
  of kind message none .nothing

/-- Whether a failure is handled where those of a class are. -/
def isA (e : Failure) (c : FailureClass) : Bool := e.kind.isA c

/-- Whether a failure is one that the client is expected to have. -/
def isExpected (e : Failure) : Bool := e.isA .pipeline || e.isA .system

/-- The names of the classes along the causes, nearest first. -/
def causeNames : Failure → List String
  | of _ _ none _ => []
  | of _ _ (some c) _ => c.kind.name :: causeNames c

end Failure

end SorobanDeploy
