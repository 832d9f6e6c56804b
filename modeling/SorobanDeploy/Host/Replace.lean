import SorobanDeploy.Host.Files
import SorobanDeploy.Text.Quoted

/-!
# Replacing a file

A file is replaced in one step: the content goes into a new file beside it, which then takes its
place. The new file is made in the directory as its text says, with double points taken away by name
alone. If it cannot take the place, it is removed again. A failure names the new file by its
pattern, in which the characters that are free are written `X`.
-/

namespace SorobanDeploy.Files

variable {σ : Type}

open Act

/-- The name of a new file beside another one. -/
def besideName (name stamp : String) : String := name ++ "." ++ stamp ++ ".tmp"

/-- The free characters as failures write them. -/
def maskedStamp : String := "XXXXXXXX"

/-- The stamps that are tried. -/
def stamps : List String :=
  (List.range 10000).map fun n => String.ofList (Text.hexDigits 8 n)

/-- The path of a new file beside another one. -/
def besidePath (dir : Path) (name stamp : String) : String :=
  (dir.join ⟨.relative, [besideName name stamp]⟩).text

/-- The place of the first stamp that no file has. -/
def freePlace (h : Host σ) (dir : Path) (name : String) : List String → Except Refusal Place
  | [] => .error .exists
  | stamp :: rest =>
    match h.tree.newPlace h.cwd (besidePath dir name stamp) with
    | .error .exists => freePlace h dir name rest
    | answer => answer

/-- The failure of moving a file to a path. -/
def moveRefusal (r : Refusal) (source path : String) : Failure :=
  .plain (.ofErrorNumber r.number)
    ("[Errno " ++ toString r.number ++ "] " ++ r.text ++ ": " ++ Text.quoted source ++ " -> "
      ++ Text.quoted path)

/-- Moves the file at a place to the end of a path. -/
def move (source : Place) (shown path : String) : Act σ Unit := do
  let h ← host
  match h.renameFault with
  | some e => fail e
  | none =>
    match h.tree.movePlace h.cwd path, Pairs.get? source h.tree with
    | .ok target, some entry => setTree ((h.tree.erase source).assign target entry)
    | .ok _, none => fail (moveRefusal .noEntry shown path)
    | .error r, _ => fail (moveRefusal r shown path)

/-- Removes the file at a place. -/
def removeAt (place : Place) : Act σ Unit := do
  setTree ((← host).tree.erase place)

/-- Puts a content in place of the file at the end of a path. -/
def replace (path : Path) (content : Text.Octets) : Act σ Unit := do
  -- The directory is taken by its text: double points go away before any link is followed.
  let dir := (← absolute path.parent).normalized
  let shown := besidePath dir path.name maskedStamp
  let place ← request shown fun h => freePlace h dir path.name stamps
  setTree ((← host).tree.assign place (.file content))
  onFailure (move place shown path.text) (removeAt place)

end SorobanDeploy.Files
