import SorobanDeploy.Pairs
import SorobanDeploy.Path
import SorobanDeploy.Text.Utf8

/-!
# The tree of files

A tree gives each place, a list of names from the root, at most one entry. A path leads through the
tree name by name, from a start; a symbolic link on the way is replaced by what it holds. The walk
ends because at most `linkLimit` links are followed.

A working directory may have been removed. It is then still a directory to stand in, in which
nothing can be found or made, and from which a double point leads up to where it was.
-/

namespace SorobanDeploy

/-- A place: the names from the root down. -/
abbrev Place := List String

/-- What stands at a place. -/
inductive Entry where
  /-- A regular file that cannot be executed. -/
  | file (content : Text.Octets)
  /-- A program, and the content of its file. -/
  | program (content : Text.Octets)
  /-- A symbolic link and the path it holds. -/
  | link (target : String)
  | directory
  /-- A pipe, a terminal or another device. It has no content that stays: whoever opens it reads
  what comes then. A reader of statements reads `early`, which is empty if it opens no such entry,
  and any other reader reads `late`. -/
  | stream (early late : Text.Octets)
  deriving DecidableEq, Repr

/-- The entries of a tree. The root is a directory and has no entry of its own. -/
abbrev Tree := Pairs Place Entry

/-- Why the system refuses a path. -/
inductive Refusal where
  | noEntry
  | accessDenied
  | exists
  | notDirectory
  | isDirectory
  | nameTooLong
  | tooManyLinks
  deriving DecidableEq, Repr

/-- The number of a refusal. -/
def Refusal.number : Refusal → Nat
  | .noEntry => 2
  | .accessDenied => 13
  | .exists => 17
  | .notDirectory => 20
  | .isDirectory => 21
  | .nameTooLong => 36
  | .tooManyLinks => 40

/-- A refusal in words. -/
def Refusal.text : Refusal → String
  | .noEntry => "No such file or directory"
  | .accessDenied => "Permission denied"
  | .exists => "File exists"
  | .notDirectory => "Not a directory"
  | .isDirectory => "Is a directory"
  | .nameTooLong => "File name too long"
  | .tooManyLinks => "Too many levels of symbolic links"

/-- What reading an entry gives. A link is not read itself, since it is followed. -/
def Entry.read : Entry → Except Refusal Text.Octets
  | .file content | .program content => .ok content
  | .stream _ late => .ok late
  | .link _ => .ok []
  | .directory => .error .isDirectory

/-- A directory to stand in: `lost` levels below a place, in directories that were removed, or at
the place itself. -/
structure Spot where
  place : Place
  lost : Nat
  deriving DecidableEq, Repr

namespace Spot

/-- A directory that is still there. -/
def live (place : Place) : Spot := ⟨place, 0⟩

/-- The directory above. -/
def parent (s : Spot) : Spot :=
  match s.lost with
  | 0 => ⟨s.place.dropLast, 0⟩
  | n + 1 => ⟨s.place, n⟩

/-- Where one stands after the removal of what is at a place. -/
def afterRemoval (s : Spot) (removed : Place) : Spot :=
  if removed ≠ [] ∧ removed.isPrefixOf s.place then
    ⟨removed.dropLast, s.lost + (s.place.length - removed.length) + 1⟩
  else s

end Spot

/-- The end of a walk. -/
inductive Goal where
  /-- Something stands there. -/
  | present (place : Spot) (entry : Entry)
  /-- The directory is there, the last name in it is not. -/
  | absent (dir : Place) (name : String)
  deriving DecidableEq, Repr

/-- What a walk comes to before a link. -/
inductive Stage where
  | done (goal : Goal)
  | refused (r : Refusal)
  /-- A link in a directory, with the names that are still to go after it. -/
  | through (dir : Spot) (target : String) (rest : List String)
  deriving DecidableEq, Repr

/-- What a path is walked for. -/
inductive Aim where
  /-- The entry at its end, even if that is a link. -/
  | entry
  /-- What stands at the end of all links. -/
  | target
  /-- A file at the end of all links, which is made if it is missing. -/
  | file
  deriving DecidableEq, Repr

namespace Tree

/-- The most links that a walk follows. -/
def linkLimit : Nat := 40

/-- The most octets of a name. -/
def nameLimit : Nat := 255

/-- The octets that a path has to stay below. -/
def pathLimit : Nat := 4096

/-- The names of a path for a walk. A slash at the end gives an empty name, which asks for a
directory as a point does. -/
def walkNames (path : String) : List String :=
  let parts := Text.splitOn '/' path.toList
  let names := parts.filter (· ≠ [])
  (if parts.getLast? = some [] ∧ names ≠ [] then names ++ [[]] else names).map String.ofList

/-- Where a path starts, seen from a directory. -/
def start (dir : Spot) (path : String) : Spot :=
  if path.toList.head? = some '/' then .live [] else dir

/-- What stands under a name in a directory. -/
def child? (t : Tree) (s : Spot) (name : String) : Option Entry :=
  if s.lost = 0 then Pairs.get? (s.place ++ [name]) t else none

/-- The walk from a directory to the first link that has to be followed. -/
def advance (t : Tree) (aim : Aim) : Spot → List String → Stage
  | s, [] => .done (.present s .directory)
  | s, name :: rest =>
    if name = "" ∨ name = "." then advance t aim s rest
    else if name = ".." then advance t aim s.parent rest
    -- No file is made under a name with a slash behind it, whatever stands there.
    else if rest = [""] ∧ aim = .file then .refused .isDirectory
    -- A directory that was removed holds nothing, under no name.
    else if s.lost ≠ 0 then .refused .noEntry
    else if nameLimit < name.utf8ByteSize then .refused .nameTooLong
    else
      match child? t s name with
      | none => if rest = [] then .done (.absent s.place name) else .refused .noEntry
      | some .directory => advance t aim (.live (s.place ++ [name])) rest
      | some (.link target) =>
        -- A link on the way is always followed.
        if rest = [] ∧ aim = .entry then
          .done (.present (.live (s.place ++ [name])) (.link target))
        else .through s target rest
      | some entry =>
        if rest = [] then .done (.present (.live (s.place ++ [name])) entry)
        else .refused .notDirectory

/-- The walk along names, through at most `limit` links. -/
def walk (t : Tree) (aim : Aim) : Nat → Spot → List String → Except Refusal Goal
  | limit, s, names =>
    match advance t aim s names with
    | .done goal => .ok goal
    | .refused r => .error r
    | .through dir target rest =>
      match limit with
      | 0 => .error .tooManyLinks
      | n + 1 => walk t aim n (start dir target) (walkNames target ++ rest)

/-- Where a path leads from a working directory. -/
def find (t : Tree) (cwd : Spot) (aim : Aim) (path : String) : Except Refusal Goal :=
  if path.isEmpty then .error .noEntry
  else if pathLimit ≤ path.utf8ByteSize then .error .nameTooLong
  else walk t aim linkLimit (start cwd path) (walkNames path)

/-- What stands at the end of a path, through all links. -/
def status (t : Tree) (cwd : Spot) (path : String) : Except Refusal (Spot × Entry) :=
  match find t cwd .target path with
  | .ok (.present s entry) => .ok (s, entry)
  | .ok (.absent ..) => .error .noEntry
  | .error r => .error r

/-- What the link at a place holds. There is none if the system does not take the path of the
place. -/
def linkAt? (t : Tree) (place : Place) : Option String :=
  match find t (.live []) .entry (Path.ofPlace place).text with
  | .ok (.present _ (.link target)) => some target
  | _ => none

/-- The place that names lead to by their texts, with every link on the way replaced by the place
that `follow` gives for it, seen from the directory that it is in. -/
def resolveNames (t : Tree) (follow : Place → String → Option Place) :
    Place → List String → Option Place
  | place, [] => some place
  | place, name :: rest =>
    if name = "" ∨ name = "." then resolveNames t follow place rest
    else if name = ".." then resolveNames t follow place.dropLast rest
    else
      match linkAt? t (place ++ [name]) with
      | none => resolveNames t follow (place ++ [name]) rest
      | some target =>
        (follow place target).bind fun reached => resolveNames t follow reached rest

/-- The place that names lead to, name by name, with at most `depth` links inside each other. -/
def resolve (t : Tree) : Nat → Place → List String → Option Place
  | 0 => resolveNames t fun _ _ => none
  | depth + 1 => resolveNames t fun place target =>
    resolve t depth (start (.live place) target).place (walkNames target)

/-- The path from the root without links and points, by the texts of the links on the way. There is
none if a link leads back to itself, which shows itself when more links are open than the tree
has. -/
def resolved (t : Tree) (path : String) : Option Place :=
  resolve t (t.length + linkLimit) [] (walkNames path)

/-- What is read at the end of a path. -/
def contentOf (t : Tree) (cwd : Spot) (path : String) : Except Refusal Text.Octets :=
  match status t cwd path with
  | .ok (_, entry) => entry.read
  | .error r => .error r

/-- The tree with an empty file at the end of a path, unless a file is there already. -/
def touch (t : Tree) (cwd : Spot) (path : String) : Except Refusal Tree :=
  match find t cwd .file path with
  | .ok (.present _ .directory) => .error .isDirectory
  | .ok (.present ..) => .ok t
  | .ok (.absent dir name) => .ok (t.assign (dir ++ [name]) (.file []))
  | .error r => .error r

/-- The tree with a new directory at the end of a path. -/
def makeDirectory (t : Tree) (cwd : Spot) (path : String) : Except Refusal Tree :=
  match find t cwd .entry path with
  | .ok (.present ..) => .error .exists
  | .ok (.absent dir name) => .ok (t.assign (dir ++ [name]) .directory)
  | .error r => .error r

/-- The place of a new file at the end of a path. -/
def newPlace (t : Tree) (cwd : Spot) (path : String) : Except Refusal Place :=
  match find t cwd .entry path with
  | .ok (.present ..) => .error .exists
  | .ok (.absent dir name) => .ok (dir ++ [name])
  | .error r => .error r

/-- The place that a file moved to the end of a path takes. A link there is replaced, a directory is
not. -/
def movePlace (t : Tree) (cwd : Spot) (path : String) : Except Refusal Place :=
  match find t cwd .entry path with
  | .ok (.present _ .directory) => .error .isDirectory
  | .ok (.present s _) => .ok s.place
  | .ok (.absent dir name) => .ok (dir ++ [name])
  | .error r => .error r

/-- The tree without what stands at a place and below it. -/
def removeAll (t : Tree) (place : Place) : Tree :=
  t.filter fun p => !place.isPrefixOf p.1

/-- Writes a file at the end of a path, through links. What is written into a stream is gone. -/
def writeFile (t : Tree) (cwd : Spot) (path : String) (content : Text.Octets) :
    Except Refusal Tree :=
  match find t cwd .file path with
  | .ok (.present _ .directory) => .error .isDirectory
  | .ok (.present _ (.stream ..)) => .ok t
  | .ok (.present s _) => .ok (t.assign s.place (.file content))
  | .ok (.absent dir name) => .ok (t.assign (dir ++ [name]) (.file content))
  | .error r => .error r

end Tree

end SorobanDeploy
