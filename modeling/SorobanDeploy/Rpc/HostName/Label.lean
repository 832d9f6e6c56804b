import SorobanDeploy.Rpc.HostName.Letters
import SorobanDeploy.Text.Punycode
import SorobanDeploy.Text.Compose

/-!
# Labels of host names

A label is a part of a host name between points. One that is not all ASCII is sent as ASCII behind
the mark `xn--`. Before that it has to be valid: composed, made of letters that may stand where they
stand, without hyphens that could be mistaken, and with one direction.
-/

namespace SorobanDeploy.Rpc.HostName

open Text

/-! ## Where characters may stand -/

/-- The character that keeps its neighbours apart. -/
def nonJoiner : Char := '\u200C'

/-- The character that joins its neighbours. -/
def joiner : Char := '\u200D'

/-- Whether the mark before ends a letter without its vowel. -/
def followsVirama (before : List Char) : Bool :=
  (before.head?.map fun c => decide (markClass c = viramaClass)).getD false

/-- Whether the nearest letter, past the marks that are joined through, is one of a table. -/
def reaches (t : Table) (cs : List Char) : Bool :=
  ((cs.dropWhile transparentTable.contains).head?.map t.contains).getD false

/-- Whether the next character is one of a table. -/
def touches (t : Table) (cs : List Char) : Bool := (cs.head?.map t.contains).getD false

/-- Whether a character is one of the ten digits from a code point on. -/
def isDigitFrom (start : Nat) (c : Char) : Bool :=
  start ≤ c.toNat && c.toNat < start + 10

/-- The first of the two rows of Arabic digits, and of the other one. -/
def arabicZero : Nat := 0x660

/-- The first digit of the other row of Arabic digits. -/
def extendedZero : Nat := 0x6F0

/-- Whether a character that may not stand everywhere may stand behind `before`, the nearest first,
and before `behind`. -/
def fitsBetween (before : List Char) (c : Char) (behind : List Char) : Bool :=
  let others := before ++ behind
  if c = nonJoiner then
    followsVirama before || (reaches joinsBehindTable before && reaches joinsBeforeTable behind)
  else if c = joiner then followsVirama before
  -- The point between two letters l.
  else if c = '\u00B7' then before.head? = some 'l' && behind.head? = some 'l'
  -- The sign of a Greek number.
  else if c = '\u0375' then touches greekTable behind
  -- The two Hebrew signs of numbers.
  else if c = '\u05F3' || c = '\u05F4' then touches hebrewTable before
  -- The point between Japanese words.
  else if c = '\u30FB' then others.any japaneseTable.contains
  -- The two rows of Arabic digits are not mixed.
  else if isDigitFrom arabicZero c then !others.any (isDigitFrom extendedZero)
  else if isDigitFrom extendedZero c then !others.any (isDigitFrom arabicZero)
  else false

/-- Whether every character of a label may stand where it stands, behind `before`. -/
def placesAllowed (before : List Char) : List Char → Bool
  | [] => true
  | c :: rest =>
    (isLetter c || fitsBetween before c rest) && placesAllowed (c :: before) rest

/-- Whether hyphens stand where they may: not at the ends, and not in the third and fourth place. -/
def hyphensAllowed (label : List Char) : Bool :=
  label.head? ≠ some '-' && label.getLast? ≠ some '-' && (label.drop 2).take 2 ≠ ['-', '-']

/-! ## The direction of a label -/

/-- The last direction that is not that of a mark. -/
def lastDirection? (ds : List Direction) : Option Direction :=
  (ds.filter (· ≠ .mark)).getLast?

/-- Whether the directions of a label agree. One with characters from right to left begins with a
letter, ends with a letter or a digit, holds no letter of the other direction and not both kinds of
digits. A label from left to right may not hold any character from right to left. -/
def directionsAgree (label : List Char) : Bool :=
  let ds := label.map direction
  let turns := ds.any fun d => d = .right || d = .arabicDigit
  if ds.contains .unknown then false
  else if !turns then true
  else
    ds.head? = some .right && !ds.contains .left
      && !(ds.contains .arabicDigit && ds.contains .europeanDigit)
      && [some .right, some .arabicDigit, some .europeanDigit].contains (lastDirection? ds)

/-! ## Valid labels -/

/-- The greatest length of a host name with a point at its end. -/
def maxName : Nat := 254

/-- The greatest length of a label that is sent. -/
def maxLabel : Nat := 63

/-- Whether a label is valid. -/
def isValidLabel (label : List Char) : Bool :=
  label ≠ [] && label.length ≤ maxName && composed label = label && hyphensAllowed label
    && !(label.head?.map isCombining).getD false && placesAllowed [] label
    && directionsAgree label

/-- Whether all characters of a text are ASCII. -/
def isAscii (cs : List Char) : Bool := cs.all (·.toNat < 0x80)

/-- What a label begins with that stands for one beyond ASCII. -/
def asciiMark : List Char := "xn--".toList

/-- The label that a label in ASCII stands for. -/
def meaning? (label : List Char) : Option (List Char) :=
  let small := label.map Char.toLower
  if asciiMark.isPrefixOf small then
    let gaps := small.drop asciiMark.length
    if gaps.getLast? = some '-' then none else Punycode.decode? gaps
  else some small

/-- A label as it is sent, if it can be. One in ASCII stays as it is. -/
def sentLabel? (label : List Char) : Option (List Char) :=
  let sent := if isAscii label then label else asciiMark ++ Punycode.encode label
  let meaning := if isAscii label then meaning? label else some label
  if (meaning.map isValidLabel).getD false && sent.length ≤ maxLabel then some sent else none

end SorobanDeploy.Rpc.HostName
