import SorobanDeploy.Text.Table

/-!
# Numbered cells

The larger character sets are rows of numbered cells. Octets choose a cell by a layout: runs of
octets for the rows, and runs of octets for the cells of a row.
-/

namespace SorobanDeploy.Text.Charset

/-! ## Contents -/

/-- What the cells of a set hold. Blocks of ideographs are kept as they are; everything else is in a
table, by the numbers of the cells. -/
structure Cells where
  symbols : Table
  blocks : List (Nat × Array Char)
  deriving DecidableEq, Repr

namespace Cells

/-- What stands in a block for a cell that is not filled there. -/
def hole : Char := '.'

/-- The set with a table and blocks that are written. Blanks and line ends do not count. -/
def ofText (symbols : String) (blocks : List (Nat × String)) : Cells where
  symbols := Table.ofText symbols
  blocks := blocks.map fun (start, text) =>
    (start, (text.toList.filter fun c => c ≠ ' ' && c ≠ '\n').toArray)

/-- The ideograph in a cell, if it stands in a block. -/
def ideograph? (s : Cells) (n : Nat) : Option Char :=
  s.blocks.findSome? fun (start, cs) =>
    if start ≤ n then cs[n - start]?.filter (· ≠ hole) else none

/-- What stands in a cell. -/
def at? (s : Cells) (n : Nat) : Option (List Char) :=
  match s.ideograph? n with
  | some c => some [c]
  | none => s.symbols.at? n

end Cells

/-- The characters from one code point to another that a list does not hold, in order. -/
def missingFrom (held : List Char) (first last : Nat) : Array Char :=
  let seen := held.foldl (fun seen c =>
    if first ≤ c.toNat then seen.setIfInBounds (c.toNat - first) true else seen)
    (Array.replicate (last + 1 - first) false)
  ((List.range seen.size).filter fun i => seen[i]? = some false).toArray.map fun i =>
    Char.ofNat (first + i)

/-! ## Layouts -/

/-- Runs of octets that count as one sequence. -/
abbrev Runs := List (Nat × Nat)

namespace Runs

/-- The number of octets in runs. -/
def size : Runs → Nat
  | [] => 0
  | (low, high) :: rest => high + 1 - low + size rest

/-- The place of an octet in runs. -/
def place? : Runs → Nat → Option Nat
  | [], _ => none
  | (low, high) :: rest, n =>
    if low ≤ n ∧ n ≤ high then some (n - low)
    else (place? rest n).map (high + 1 - low + ·)

end Runs

/-- How two octets choose a cell: the runs of the rows and the runs of the cells of a row. -/
structure Layout where
  rows : Runs
  cells : Runs
  deriving DecidableEq, Repr

/-- The number of the cell that two octets choose. -/
def Layout.number? (l : Layout) (a b : Nat) : Option Nat := do
  pure ((← l.rows.place? a) * l.cells.size + (← l.cells.place? b))

/-- A square of 94 rows and cells, with the first one of each at an octet. -/
def Layout.square (first : Nat) : Layout := ⟨[(first, first + 93)], [(first, first + 93)]⟩

/-- The square in the lower half of the octets. -/
def lowSquare : Layout := .square 0x21

/-- The square in the upper half of the octets. -/
def highSquare : Layout := .square 0xA1

/-- What stands in the cell that two octets choose. -/
def Cells.chosen? (s : Cells) (l : Layout) (a b : Nat) : Option (List Char) := do
  s.at? (← l.number? a b)

end SorobanDeploy.Text.Charset
