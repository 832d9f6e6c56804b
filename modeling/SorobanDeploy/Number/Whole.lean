import SorobanDeploy.Text.Blank
import SorobanDeploy.Text.Digit

/-!
# Whole numbers as people write them

A whole number may stand between blanks and have a sign. Its digits may be those of any script, and
single underscores may stand between them. More than `wholeDigitLimit` digits are no number.
-/

namespace SorobanDeploy

open Text

/-- The greatest number of digits of a whole number. -/
def wholeDigitLimit : Nat := 4300

/-- Whether a character may stand around a whole number: the blanks but the information
separators. -/
def isNumberGap (c : Char) : Bool :=
  isBlank c && !(28 ≤ c.toNat && c.toNat ≤ 31)

/-- The values of digits with single underscores between them. -/
def digitValues? : List Char → Option (List Nat)
  | [] => none
  | [c] => (digitValue? c).map ([·])
  | c :: '_' :: rest => do pure ((← digitValue? c) :: (← digitValues? rest))
  | c :: rest => do pure ((← digitValue? c) :: (← digitValues? rest))

/-- The number that the values of digits write. -/
def ofDigitValues (ds : List Nat) : Nat := ds.foldl (fun n d => n * 10 + d) 0

/-- The number that a text without blanks around it writes. -/
def signedNumber? : List Char → Option Int
  | '-' :: cs => (magnitude? cs).map fun n => -(n : Int)
  | '+' :: cs => (magnitude? cs).map fun n => (n : Int)
  | cs => (magnitude? cs).map fun n => (n : Int)
where
  /-- The number that digits write, unless there are too many. -/
  magnitude? (cs : List Char) : Option Nat :=
    (digitValues? cs).bind fun ds =>
      if wholeDigitLimit < ds.length then none else some (ofDigitValues ds)

/-- The whole number that a text writes. -/
def wholeNumber? (s : String) : Option Int :=
  signedNumber? ((s.toList.dropWhile isNumberGap).reverse.dropWhile isNumberGap).reverse

end SorobanDeploy
