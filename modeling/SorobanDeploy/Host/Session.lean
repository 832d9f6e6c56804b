import SorobanDeploy.Failure
import SorobanDeploy.Host.Tree
import SorobanDeploy.Log
import SorobanDeploy.Network
import SorobanDeploy.Problem

/-!
# Sessions

A run acts on a host: a tree of files, a working directory, an environment, and the part `σ` of the
world that only others see. What the run does besides is told by a trace of events. An action ends
with a value or with a failure, and in both cases with the session as it is then.

Others than the run, the client above all, are a `Party`: a function of what they are asked and of
the host. They can do to the host what they like, but the trace is written by the session. It tells
each call of the client with the host at that moment and the answer, and each change that the run
itself makes to the tree.
-/

namespace SorobanDeploy

/-- What a run and its client act on. Its entries have no owners and no permissions: nothing is
refused to the run for want of one. -/
structure Host (σ : Type) where
  tree : Tree
  cwd : Spot
  env : Pairs String String
  /-- What every renaming fails with, if the system refuses to rename. -/
  renameFault : Option Failure
  outside : σ

/-- One request to the client. -/
inductive Call where
  /-- The public address of an identity. -/
  | resolveAddress (identity : String)
  /-- Funds for the account of an identity. -/
  | fund (identity network : String)
  /-- A build of all packages or of one, optimized or not. -/
  | build (package : Option String) (optimize : Bool)
  /-- The deployment of a file. -/
  | deploy (wasm : String) (profile : NetworkProfile) (identity : String)
  /-- A call of a contract's function. -/
  | invoke (contractId function : String) (arguments : Pairs String String)
      (profile : NetworkProfile) (identity : String)
  deriving DecidableEq, Repr

/-- A program that was started: its file, the words given to it, and the directory it ran in. -/
structure Launch where
  program : String
  arguments : List String
  directory : Option String
  deriving DecidableEq, Repr

/-- A request that was sent: the address, and the seconds to wait for an answer. -/
structure Request where
  url : String
  timeout : Json
  deriving Repr

/-- What a party shows of what it does. -/
inductive Note where
  | record (r : Log.Record)
  | launch (l : Launch)
  | request (r : Request)
  deriving Repr

/-- Where a run prints. -/
inductive Channel where
  | output
  | errors
  deriving DecidableEq, Repr

/-- A call of the client: what is asked, the host on which it is asked, and the answer. -/
structure Exchange (σ : Type) where
  call : Call
  host : Host σ
  answer : Except Failure (Option String)

/-- What happens in a session. -/
inductive Event (σ : Type) where
  /-- The client is asked and answers. -/
  | exchange (x : Exchange σ)
  /-- The network of a profile is checked. -/
  | check (profile : NetworkProfile)
  /-- The run itself changes the tree to another one. -/
  | change (tree : Tree)
  | note (n : Note)
  | print (channel : Channel) (text : String)
  /-- The log is set up with a threshold. -/
  | configure (level : Log.Level)

/-- A host, and what has happened on it so far. -/
structure Session (σ : Type) where
  host : Host σ
  trace : List (Event σ)

/-- Something that ends with a value or a failure. -/
abbrev Act (σ : Type) := EStateM Failure (Session σ)

/-- What a party answers, what it leaves of the host, and what it shows. -/
structure Reply (σ α : Type) where
  answer : Except Failure α
  host : Host σ
  notes : List Note

/-- Someone else who is asked for something. -/
abbrev Party (σ ι α : Type) := ι → Host σ → Reply σ α

/-- A client answers calls with text, or with nothing. -/
abbrev Client (σ : Type) := Party σ Call (Option String)

/-- The absolute path of a directory, unless it was removed. -/
def Spot.path? (s : Spot) : Option Path :=
  if s.lost = 0 then some (.ofPlace s.place) else none

namespace Act

variable {σ α β ι : Type}

/-- An action that fails. -/
def fail (e : Failure) : Act σ α := fun s => .error e s

/-- An action that fails for one of the tool's own reasons. -/
def refuse (p : Problem) : Act σ α := fail p.failure

/-- The host as it is. -/
def host : Act σ (Host σ) := fun s => .ok s.host s

/-- Changes the tree. -/
def setTree (t : Tree) : Act σ Unit :=
  fun s => .ok () ⟨{ s.host with tree := t }, s.trace ++ [.change t]⟩

/-- Moves to another directory. -/
def setCwd (dir : Spot) : Act σ Unit :=
  fun s => .ok () { s with host := { s.host with cwd := dir } }

/-- Adds an event to the trace. -/
def emit (e : Event σ) : Act σ Unit := fun s => .ok () { s with trace := s.trace ++ [e] }

/-- Logs a message. -/
def log (level : Log.Level) (logger message : String) : Act σ Unit :=
  emit (.note (.record ⟨level, logger, message⟩))

/-- Prints a text. -/
def print (channel : Channel) (text : String) : Act σ Unit := emit (.print channel text)

/-- Takes the reply of a party. -/
def receive (reply : Reply σ α) : Act σ α := fun s =>
  let s := { host := reply.host, trace := s.trace ++ reply.notes.map .note }
  match reply.answer with
  | .ok a => .ok a s
  | .error e => .error e s

/-- Asks a party. -/
def consult (party : Party σ ι α) (question : ι) : Act σ α := do
  receive (party question (← host))

/-- Asks the client; the trace tells of it before what the client shows. -/
def ask (client : Client σ) (call : Call) : Act σ (Option String) := do
  let h ← host
  let reply := client call h
  emit (.exchange ⟨call, h, reply.answer⟩)
  receive reply

/-- The action with its failures replaced. -/
def mapFailure (f : Failure → Failure) (body : Act σ α) : Act σ α := fun s =>
  match body s with
  | .ok a s => .ok a s
  | .error e s => .error (f e) s

/-- The action, where an expected failure becomes the cause of one of the tool's own. -/
def explain (problem : Failure → Problem) (body : Act σ α) : Act σ α :=
  mapFailure (fun e => if e.isExpected then (problem e).because e else e) body

/-- The action, and another one in place of its failure. -/
def recover (body : Act σ α) (other : Failure → Act σ α) : Act σ α := fun s =>
  match body s with
  | .ok a s => .ok a s
  | .error e s => other e s

/-- The action with the failures of a class as values; those of other classes stay failures. -/
def attempt (c : FailureClass) (body : Act σ α) : Act σ (Except Failure α) := fun s =>
  match body s with
  | .ok a s => .ok (.ok a) s
  | .error e s => if e.isA c then .ok (.error e) s else .error e s

/-- The action, and another one after it whether it fails or not. A failure of the other one hides
the failure of the first. -/
def andFinally (body : Act σ α) (last : Act σ Unit) : Act σ α := fun s =>
  match body s with
  | .ok a s => match last s with
    | .ok _ s => .ok a s
    | .error e s => .error e s
  | .error e s => match last s with
    | .ok _ s => .error e s
    | .error e s => .error e s

/-- The action, and another one after it only if it fails. -/
def onFailure (body : Act σ α) (undo : Act σ Unit) : Act σ α := fun s =>
  match body s with
  | .ok a s => .ok a s
  | .error e s => match undo s with
    | .ok _ s => .error e s
    | .error e s => .error e s

/-! ## Running one action after another -/

@[simp] theorem pure_apply (a : α) (s : Session σ) : (pure a : Act σ α) s = .ok a s := rfl

@[simp] theorem fail_apply (e : Failure) (s : Session σ) : (fail e : Act σ α) s = .error e s := rfl

/-- What follows an action runs in the session that the action leaves. -/
theorem bind_apply (x : Act σ α) (f : α → Act σ β) (s : Session σ) :
    (x >>= f) s = match x s with
      | .ok a t => f a t
      | .error e t => .error e t := by
  cases hx : x s <;> simp [bind, EStateM.bind, hx]

/-- Two actions succeed exactly if the first one does and then the second one. -/
theorem bind_eq_ok_iff (x : Act σ α) (f : α → Act σ β) (s u : Session σ) (b : β) :
    (x >>= f) s = .ok b u ↔ ∃ a t, x s = .ok a t ∧ f a t = .ok b u := by
  rw [bind_apply]
  cases x s with
  | ok a t => simp [and_assoc]
  | error e t => simp

/-- Two actions fail exactly if the first one does, or it does not and then the second one does. -/
theorem bind_eq_error_iff (x : Act σ α) (f : α → Act σ β) (s u : Session σ) (e : Failure) :
    (x >>= f) s = .error e u ↔
      x s = .error e u ∨ ∃ a t, x s = .ok a t ∧ f a t = .error e u := by
  rw [bind_apply]
  cases x s with
  | ok a t => simp [and_assoc]
  | error e t => simp

end Act

end SorobanDeploy
