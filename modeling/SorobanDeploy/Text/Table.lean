import SorobanDeploy.Text.Hex
import SorobanDeploy.Text.Split

/-!
# Tables of characters

A table is written as rows of code points in hexadecimal digits, with blanks or line ends between
the rows. A row is one code point (`7F`), a run of them (`61-7A`), or a run of every second one
(`100-12E/2`). A row may give what its code points stand for: `41-5A>61` is a run onto the run from
61, `DF>73,73` one character for two, and `AD>` one for nothing. A table of octets, or of numbered
cells, has their numbers in place of the code points.
-/

namespace SorobanDeploy.Text

/-- One row of a table: a run of code points, and what they stand for. -/
structure Row where
  first : Nat
  last : Nat
  step : Nat
  images : List Nat
  deriving DecidableEq, Repr

namespace Row

/-- Whether a code point is one of the run. -/
def holds (r : Row) (n : Nat) : Bool :=
  r.first ≤ n && n ≤ r.last && (n - r.first) % r.step = 0

/-- What a code point of the run stands for: one character moves along with it. -/
def image (r : Row) (n : Nat) : List Char :=
  match r.images with
  | [m] => [Char.ofNat (m + (n - r.first))]
  | ms => ms.map Char.ofNat

/-- What stands before a mark, and what stands behind it if the mark is there. -/
def cut (mark : Char) (cs : List Char) : List Char × Option (List Char) :=
  (cs.takeWhile (· ≠ mark), match cs.dropWhile (· ≠ mark) with
    | [] => none
    | _ :: behind => some behind)

/-- The code point that is written. -/
def codePoint (cs : List Char) : Nat := (hexNumber? cs).getD 0

/-- The code points that are written with commas between them. -/
def codePoints : List Char → List Nat
  | [] => []
  | cs => (splitOn ',' cs).map codePoint

/-- The row that is written. -/
def ofText (cs : List Char) : Row :=
  let (run, images) := cut '>' cs
  let (range, step) := cut '/' run
  let (first, last) := cut '-' range
  { first := codePoint first
    last := codePoint (last.getD first)
    step := (step.map codePoint).getD 1
    images := (images.map codePoints).getD [] }

end Row

/-- A table: its rows in ascending order. -/
abbrev Table := List Row

namespace Table

/-- The words so far, with the last one first, and one more unless it is empty. -/
def endWord (word : List Char) (done : List (List Char)) : List (List Char) :=
  if word = [] then done else word.reverse :: done

/-- The words between blanks and line ends. -/
def words (cs : List Char) : List (List Char) :=
  let (word, done) := cs.foldl (fun (word, done) c =>
    if c = ' ' ∨ c = '\n' then ([], endWord word done) else (c :: word, done))
    (([], []) : List Char × List (List Char))
  (endWord word done).reverse

/-- The table that is written. -/
def ofText (s : String) : Table := (words s.toList).map Row.ofText

/-- The row of a number. -/
def row? (t : Table) (n : Nat) : Option Row := t.find? (·.holds n)

/-- What a number stands for. -/
def at? (t : Table) (n : Nat) : Option (List Char) := (t.row? n).map (·.image n)

/-- Whether a character stands in a table. -/
def contains (t : Table) (c : Char) : Bool := (t.row? c.toNat).isSome

/-- What a character stands for. -/
def image? (t : Table) (c : Char) : Option (List Char) := t.at? c.toNat

end Table

end SorobanDeploy.Text
