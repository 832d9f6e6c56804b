import SorobanDeploy.Text.Split

/-!
# Paths as they are written

A path is a root and names. Reading a path drops empty names and single points, so that two texts of
one path are the same path; a double point stays, because what it leads to depends on links. The
operations here are on the text alone: `Host/Tree` says where a path leads.
-/

namespace SorobanDeploy

/-- The root of a path: none, one slash, or exactly two. -/
inductive PathRoot where
  | relative
  | single
  | double
  deriving DecidableEq, Repr

/-- The text of a root. -/
def PathRoot.text : PathRoot → String
  | .relative => ""
  | .single => "/"
  | .double => "//"

/-- A path: where it starts, and the names on it. -/
structure Path where
  root : PathRoot
  names : List String
  deriving DecidableEq, Repr

namespace Path

/-- The root that a text begins with. More than two slashes are as good as one. -/
def rootOf : List Char → PathRoot
  | '/' :: '/' :: '/' :: _ => .single
  | '/' :: '/' :: _ => .double
  | '/' :: _ => .single
  | _ => .relative

/-- The path that a text writes. -/
def ofText (s : String) : Path :=
  { root := rootOf s.toList
    names := ((Text.splitOn '/' s.toList).filter fun n => n ≠ [] ∧ n ≠ ['.']).map String.ofList }

/-- The text of a path; an empty one is a single point. -/
def text (p : Path) : String :=
  if p.root = .relative ∧ p.names = [] then "."
  else p.root.text ++ "/".intercalate p.names

/-- Whether a path starts at the root. -/
def isAbsolute (p : Path) : Bool := p.root ≠ .relative

/-- The path from a directory on; an absolute path stays as it is. -/
def join (dir p : Path) : Path :=
  if p.isAbsolute then p else ⟨dir.root, dir.names ++ p.names⟩

/-- The path without its last name. -/
def parent (p : Path) : Path := ⟨p.root, p.names.dropLast⟩

/-- The last name of a path. -/
def name (p : Path) : String := p.names.getLastD ""

/-- The path of a place: names from the root. -/
def ofPlace (names : List String) : Path := ⟨.single, names⟩

/-- The names that are left when every double point takes away the name before it. -/
def collapse (names : List String) : List String :=
  names.foldl (fun done n => if n = ".." then done.dropLast else done ++ [n]) []

/-- An absolute path without double points, by its text alone. -/
def normalized (p : Path) : Path := ⟨p.root, collapse p.names⟩

/-- A path starts at the root exactly if it is not relative. -/
theorem join_of_isAbsolute (dir p : Path) (h : p.isAbsolute = true) : dir.join p = p := by
  simp [join, h]

/-- The text of a path from the root begins with a slash. -/
theorem head?_text {p : Path} (h : p.root ≠ .relative) : p.text.toList.head? = some '/' := by
  unfold text
  rw [if_neg fun hnone => h hnone.1, String.toList_append]
  cases hroot : p.root with
  | relative => exact absurd hroot h
  | single => rfl
  | double => rfl

theorem head?_ofPlace (names : List String) : (ofPlace names).text.toList.head? = some '/' :=
  head?_text (by simp [ofPlace])

end Path

end SorobanDeploy
