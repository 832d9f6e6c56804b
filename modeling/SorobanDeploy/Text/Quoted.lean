import SorobanDeploy.Text.Hex
import SorobanDeploy.Text.Printable

/-!
# Quoted text

A text as messages show it between quotes. The quotes are single unless the text holds a single
quote and no double one. A backslash and the quote itself are escaped, and a character that cannot
be shown is written by its number, in the fewest of two, four or eight hexadecimal digits.
-/

namespace SorobanDeploy.Text

/-- One character between the given quotes. -/
def quoteChar (quote c : Char) : List Char :=
  let n := c.toNat
  if c = quote ∨ c = '\\' then ['\\', c]
  else if c = '\n' then ['\\', 'n']
  else if c = '\r' then ['\\', 'r']
  else if c = '\t' then ['\\', 't']
  else if isPrintable c then [c]
  else if n < 0x100 then '\\' :: 'x' :: hexDigits 2 n
  else if n < 0x10000 then '\\' :: 'u' :: hexDigits 4 n
  else '\\' :: 'U' :: hexDigits 8 n

/-- The quotes that a text is put between. -/
def quoteFor (cs : List Char) : Char :=
  if '\'' ∈ cs ∧ '"' ∉ cs then '"' else '\''

/-- A text between quotes. -/
def quoted (s : String) : String :=
  let quote := quoteFor s.toList
  String.ofList (quote :: s.toList.flatMap (quoteChar quote) ++ [quote])

end SorobanDeploy.Text
