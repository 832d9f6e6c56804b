import SorobanDeploy.Text.Charset.Cells.Cp932
import SorobanDeploy.Text.Charset.Cells.JisX0208
import SorobanDeploy.Text.Charset.Cells.JisX0212
import SorobanDeploy.Text.Charset.Cells.JisX0213
import SorobanDeploy.Text.Charset.Reading

/-!
# Japanese sets

The squares are chosen in two ways: by octets of the upper half, where a third octet in front
chooses the other square, or by shifted octets, where a row of octets holds two rows of a square.
-/

namespace SorobanDeploy.Text.Charset

/-! ## Octets that stand for one character -/

/-- ASCII with a sign for the yen in place of the backslash, and a line above for the tilde. -/
def jisRoman? (n : Nat) : Option Char :=
  if n = 0x5C then some '\u00A5' else if n = 0x7E then some '\u203E' else ascii? n

/-- The narrow kana of the octets from A1 on. -/
def kana? (n : Nat) : Option Char :=
  if 0xA1 ≤ n ∧ n ≤ 0xDF then some (Char.ofNat (0xFF61 + (n - 0xA1))) else none

/-! ## The wider squares -/

/-- The editions of the wider squares. -/
inductive Edition where
  | first
  | second
  deriving DecidableEq, Repr

/-- The cells of the first wider square that are filled since the second edition. -/
def filledLater : List Nat := [1222, 1409, 4375, 4417, 7808, 8831, 8832, 8833, 8834, 8835]

/-- What stands in a cell of the first wider square. -/
def widerFirst? (e : Edition) (n : Nat) : Option (List Char) :=
  if e = .first ∧ filledLater.contains n then none
  else
    match Cells.jisX0208.at? n with
    | some cs => some cs
    | none => Cells.jisX0213Added.at? n

/-- The cell of the second wider square that the editions fill with two forms of one kanji. -/
def changedCell : Nat := 8674

/-- What stands in a cell of the second wider square. -/
def widerSecond? (e : Edition) (n : Nat) : Option (List Char) :=
  if e = .first ∧ n = changedCell then some ['\u9B1D'] else Cells.jisX0213Second.at? n

/-- Whether two octets choose a cell that an edition leaves empty and the next one fills. -/
def isRefused (e : Edition) (l : Layout) (a b : Nat) : Bool :=
  e = .first && ((l.number? a b).map filledLater.contains).getD false

/-- Takes two octets that are refused as ill-formed together. -/
def Stateless.refusing (refused : Nat → Nat → Bool) (r : Stateless) : Stateless := fun b rest =>
  if (rest.head?.map fun c => refused b.toNat c.toNat).getD false then .ill 1 () else r b rest

/-! ## Octets of the upper half -/

/-- Reads a square in two octets, narrow kana behind the octet 8E, and another square in two octets
behind the octet 8F. -/
def Stateless.upperHalf (square other : Nat → Option (List Char)) : Stateless := fun b rest =>
  if b < 0x80 then .text [plainChar b] 0 ()
  else if b = 0x8E then
    .ofText? ((rest.head?.bind fun c => kana? c.toNat).map ([·])) 1 ()
  else if b = 0x8F then
    match rest with
    | c :: d :: _ => .ofText? ((highSquare.number? c.toNat d.toNat).bind other) 2 ()
    | _ => .ill rest.length ()
  else .ofText? (rest.head?.bind fun c => (highSquare.number? b.toNat c.toNat).bind square) 1 ()

/-- The Japanese square and the supplementary one. -/
def Stateless.eucJp : Stateless := .upperHalf Cells.jisX0208.at? Cells.jisX0212.at?

/-- The cell of the first wider square with a tilde. -/
def tildeCell : Nat := 111

/-- The wider squares, and the supplementary one where the second of them is empty. The tilde of the
square is wide, for ASCII has the other one. -/
def Stateless.eucJisX0213 (e : Edition) : Stateless :=
  refusing (isRefused e highSquare) <|
    upperHalf (fun n => if n = tildeCell then some ['\uFF5E'] else widerFirst? e n)
      fun n => (widerSecond? e n).or (Cells.jisX0212.at? n)

/-! ## Shifted octets -/

/-- The octets that choose a cell by shifted rows. -/
def shifted : Layout := ⟨[(0x81, 0x9F), (0xE0, 0xFC)], [(0x40, 0x7E), (0x80, 0xFC)]⟩

/-- The number of cells in a square. -/
def squareSize : Nat := 94 * 94

/-- Reads what two octets choose by shifted rows. -/
def Stateless.shiftedReader (one : Nat → Option Char) (cell : Nat → Option (List Char)) :
    Stateless :=
  .onesAndTwos one fun a b => (shifted.number? a b).bind cell

/-- ASCII, narrow kana and the Japanese square. -/
def Stateless.shiftJis : Stateless :=
  .shiftedReader (fun n => (ascii? n).or (kana? n)) Cells.jisX0208.at?

/-- The characters of one octet in the code page: it has some that are reserved. -/
def cp932One? (n : Nat) : Option Char :=
  if n ≤ 0x80 then some (Char.ofNat n)
  else if n = 0xA0 then some '\uF8F0'
  else if 0xFD ≤ n then some (Char.ofNat (0xF8F1 + (n - 0xFD)))
  else kana? n

/-- The rows behind the square that are left to the users. -/
def userCells : Nat := 1880

/-- What stands in a cell of the code page. -/
def cp932Cell? (n : Nat) : Option (List Char) :=
  if squareSize ≤ n ∧ n < squareSize + userCells then
    some [Char.ofNat (0xE000 + (n - squareSize))]
  else
    match Cells.cp932Added.at? n with
    | some cs => some cs
    | none => Cells.jisX0208.at? n

/-- The code page: the Japanese square with additions and rows for the users. -/
def Stateless.cp932 : Stateless := .shiftedReader cp932One? cp932Cell?

/-- The rows of the second wider square behind those of the first, in the order in which shifted
octets choose them. -/
def secondRows : List Nat :=
  [1, 8, 3, 4, 5, 12, 13, 14, 15] ++ (List.range 17).map (78 + ·)

/-- The cell of the first wider square with a backslash. -/
def backslashCell : Nat := 31

/-- What stands in a cell of the wider squares, counted through both. The backslash of the square is
the plain one, for the Roman set has none. -/
def widerCell? (e : Edition) (n : Nat) : Option (List Char) :=
  if n = backslashCell then some ['\\']
  else if n < squareSize then widerFirst? e n
  else
    let m := n - squareSize
    secondRows[m / 94]?.bind fun row => widerSecond? e ((row - 1) * 94 + m % 94)

/-- The Roman set, narrow kana and the wider squares. -/
def Stateless.shiftJisX0213 (e : Edition) : Stateless :=
  refusing (isRefused e shifted) <|
    shiftedReader (fun n => (jisRoman? n).or (kana? n)) (widerCell? e)

end SorobanDeploy.Text.Charset
