import SorobanDeploy.Text.Charset.Reading
import SorobanDeploy.Text.Table

/-!
# Sets of one octet a character

Each of these sets is a table of octets. One that the table lacks stands for nothing. Every octet is
read by itself, so the text has as many characters as there are octets.
-/

namespace SorobanDeploy.Text.Charset

/-- A set of one octet a character: the names that it goes by, and its table as it is written. -/
structure Single where
  title : String
  aliases : List String
  rows : String
  deriving DecidableEq, Repr

/-- The characters of octets by a table, and nothing for each octet that it lacks. -/
def singles (t : Table) (bs : Octets) : List (Option Char) :=
  bs.map fun b => (t.at? b.toNat).bind List.head?

end SorobanDeploy.Text.Charset
