import SorobanDeploy.Host.Session
import SorobanDeploy.Text.Lines

/-!
# Files

The requests to the system that a run makes, on the texts of paths. A refused request fails with the
number and the words of the refusal and with the path as it was given. A text with a NUL character
is no path at all.
-/

namespace SorobanDeploy.Files

variable {σ : Type}

open Act

/-- The failure of a refused request that names no path. -/
def refusal (r : Refusal) : Failure :=
  .plain (.ofErrorNumber r.number) ("[Errno " ++ toString r.number ++ "] " ++ r.text)

/-- The failure of a refused request for a path. -/
def refusalAt (r : Refusal) (path : String) : Failure :=
  .plain (.ofErrorNumber r.number)
    ("[Errno " ++ toString r.number ++ "] " ++ r.text ++ ": " ++ Text.quoted path)

/-- The failure of a text with a NUL character where a path or a word is needed. -/
def nulFailure : Failure := .plain .badValue "embedded null byte"

/-- Whether a text has a NUL character. -/
def hasNul (s : String) : Bool := s.toList.contains '\x00'

/-- What the system answers to a request for a path. -/
def request {α : Type} (path : String) (answer : Host σ → Except Refusal α) : Act σ α := do
  if hasNul path then fail nulFailure
  else match answer (← host) with
    | .ok a => pure a
    | .error r => fail (refusalAt r path)

/-- Whether a refusal only means that nothing stands at a path. -/
def meansAbsent : Refusal → Bool
  | .noEntry | .notDirectory | .tooManyLinks => true
  | _ => false

/-- What stands at the end of a path, if anything does. -/
def entry? (path : String) : Act σ (Option Entry) := do
  if hasNul path then pure none
  else
    let h ← host
    match h.tree.status h.cwd path with
    | .ok (_, entry) => pure (some entry)
    | .error r => if meansAbsent r then pure none else fail (refusalAt r path)

/-- Whether anything stands at the end of a path. -/
def exists? (path : String) : Act σ Bool := do
  pure (← entry? path).isSome

/-- Whether a directory stands at the end of a path. -/
def isDirectory (path : String) : Act σ Bool := do
  pure ((← entry? path) == some .directory)

/-- The failure of a path with links that lead back to themselves. -/
def loopFailure (path : String) : Failure :=
  .plain .runtime ("Symlink loop from " ++ Text.quoted path)

/-- The path from the root, with its links resolved, of the directory at the end of a path from the
root, if one is there. That it is there is asked along the path itself. -/
def resolvedDirectory? (path : String) : Act σ (Option Path) := do
  if hasNul path then pure none
  else
    let h ← host
    match h.tree.status h.cwd path with
    | .ok (_, .directory) =>
      match h.tree.resolved path with
      | some place => pure (some (.ofPlace place))
      | none => fail (loopFailure path)
    | .ok _ => pure none
    | .error r => if meansAbsent r then pure none else fail (refusalAt r path)

/-- Whether a file stands at the end of a path. -/
def isFile (path : String) : Act σ Bool := do
  match ← entry? path with
  | some (.file _) | some (.program _) => pure true
  | _ => pure false

/-- What is read at the end of a path. -/
def content (path : String) : Act σ Text.Octets :=
  request path fun h => h.tree.contentOf h.cwd path

/-- The text that octets write, with folded newlines. -/
def textOf (octets : Text.Octets) : Act σ (List Char) :=
  match Text.Utf8.decode octets with
  | .ok cs => pure (Text.foldNewlines cs)
  | .error m => fail (.plain .undecodable m.message)

/-- The text that is read at the end of a path. -/
def readText (path : String) : Act σ (List Char) := do
  textOf (← content path)

/-- The working directory. -/
def workingDirectory : Act σ Path := do
  match (← host).cwd.path? with
  | some p => pure p
  | none => fail (refusal .noEntry)

/-- Moves to the directory at the end of a path. -/
def changeDirectory (path : String) : Act σ Unit := do
  setCwd (← request path fun h =>
    match h.tree.status h.cwd path with
    | .ok (s, .directory) => .ok s
    | .ok _ => .error .notDirectory
    | .error r => .error r)

/-- A path from the root on. -/
def absolute (p : Path) : Act σ Path := do
  if p.isAbsolute then pure p else pure ((← workingDirectory).join p)

/-- Makes the directory at the end of a path. -/
def makeDirectory (path : String) : Act σ Unit := do
  setTree (← request path fun h => h.tree.makeDirectory h.cwd path)

/-- A directory that is there is as good as a new one; any other failure to make it stays. -/
def acceptPresent (path : String) (e : Failure) : Act σ Unit := do
  if e.isA .system then
    if ← isDirectory path then pure () else fail e
  else fail e

/-- Makes a directory unless it is there. -/
def ensureDirectory (path : String) : Act σ Unit :=
  recover (makeDirectory path) (acceptPresent path)

/-- Makes the directory with the given names below a root unless it is there, and the missing ones
above it first. This goes as deep as directories are missing; that an interpreter gives up at about
a thousand of them is left out. -/
def ensureDirectories (root : PathRoot) (names : List String) : Act σ Unit :=
  let path := (Path.mk root names).text
  recover (makeDirectory path) fun e =>
    if e.kind = .ofErrorNumber Refusal.noEntry.number then
      if _h : names = [] then fail e
      else do
        ensureDirectories root names.dropLast
        ensureDirectory path
    else acceptPresent path e
  termination_by names.length
  decreasing_by
    have := List.length_pos_iff.mpr _h
    simp only [List.length_dropLast]
    omega

/-- Makes an empty file at the end of a path unless something stands there. -/
def touch (path : String) : Act σ Unit := do
  if hasNul path then fail nulFailure
  else
    let h ← host
    -- What stands there already only gets a new time, which is not kept here.
    match h.tree.status h.cwd path with
    | .ok _ => pure ()
    | .error _ => setTree (← request path fun h => h.tree.touch h.cwd path)

end SorobanDeploy.Files
