import SorobanDeploy.Pairs
import SorobanDeploy.Text.Charset.Reading
import SorobanDeploy.Text.Hex

/-!
# Characters behind backslashes

Octets stand for the first 256 characters. A backslash begins a longer form: a letter for a control,
up to three octal digits, or hexadecimal digits behind a letter that tells their number. The short
set has the last of these only.
-/

namespace SorobanDeploy.Text.Charset.Backslash

/-- The number of hexadecimal digits behind a letter. -/
def digitCounts : Pairs Char Nat := [('x', 2), ('u', 4), ('U', 8)]

/-- The characters that a backslash and one other stand for. -/
def shortForms : Pairs Char (List Char) := [
  ('\n', []), ('\\', ['\\']), ('\'', ['\'']), ('"', ['"']), ('b', ['\x08']), ('f', ['\x0c']),
  ('t', ['\t']), ('n', ['\n']), ('r', ['\r']), ('v', ['\x0b']), ('a', ['\x07'])]

/-- Reads hexadecimal digits behind a backslash and a letter. If one is missing, the form is
ill-formed up to there. -/
def readHex (count : Nat) (rest : Octets) : Step Unit :=
  let digits := ((rest.take count).map plainChar).takeWhile isHex
  let code := (hexNumber? digits).getD 0
  if digits.length = count ∧ code < 0x110000 then .text [charOf code] (1 + count) ()
  else .ill (1 + digits.length) ()

/-- Whether a character is an octal digit. -/
def isOctal (c : Char) : Bool := '0' ≤ c && c ≤ '7'

/-- Reads octal digits behind a backslash, three at most. -/
def readOctal (rest : Octets) : Step Unit :=
  let digits := ((rest.take 3).map plainChar).takeWhile isOctal
  let code := digits.foldl (fun n c => n * 8 + (c.toNat - '0'.toNat)) 0
  .text [charOf code] digits.length ()

/-- Reads a name in braces behind a backslash and its letter. No names are known. -/
def readName : Octets → Step Unit
  | [] => .ill 1 ()
  | b :: rest =>
    let name := rest.takeWhile (plainChar · ≠ '\x7d')
    if plainChar b ≠ '\x7b' then .ill 1 ()
    else if name.length = rest.length then .ill (2 + name.length) ()
    else if name = [] then .ill 2 ()
    else .ill (3 + name.length) ()

/-- Reads a form behind its backslash, in the set with all forms. A backslash before another
character stands for itself. -/
def readForm : Octets → Step Unit
  | [] => .ill 0 ()
  | b :: rest =>
    let c := plainChar b
    match Pairs.get? c shortForms, Pairs.get? c digitCounts with
    | some cs, _ => .text cs 1 ()
    | none, some count => readHex count rest
    | none, none =>
      if isOctal c then readOctal (b :: rest)
      else if c = 'N' then readName rest
      else .text ['\\', c] 1 ()

/-- Reads the set with all forms. -/
def full : Stateless := fun b rest =>
  if plainChar b = '\\' then readForm rest else .text [plainChar b] 0 ()

/-- Reads the short set. A backslash at the end stands for itself. -/
def short : Stateless := fun b rest =>
  match rest with
  | [] => .text [plainChar b] 0 ()
  | d :: more =>
    let c := plainChar d
    if plainChar b ≠ '\\' then .text [plainChar b] 0 ()
    else if c = 'u' then readHex 4 more
    else if c = 'U' then readHex 8 more
    else .text ['\\', c] 1 ()

end SorobanDeploy.Text.Charset.Backslash
