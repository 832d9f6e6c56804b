import SorobanDeploy.Text.Charset.Cells.Big5
import SorobanDeploy.Text.Charset.Cells.Gb2312
import SorobanDeploy.Text.Charset.Cells.Gbk
import SorobanDeploy.Text.Charset.Cells.Hkscs
import SorobanDeploy.Text.Charset.Reading

/-!
# Chinese sets

One family has the Chinese square, and around it rows for what that lacks; the widest set reaches
every character, with four octets where two do not. The other family has large rows.
-/

namespace SorobanDeploy.Text.Charset

/-! ## The square and what surrounds it -/

/-- ASCII and the Chinese square. -/
def Stateless.eucCn : Stateless := .onesAndTwos ascii? (Cells.gb2312.chosen? highSquare)

/-- The ideographs from U+4E00 to U+9FA5 that the Chinese square lacks, in order. -/
def gbkIdeographs : Array Char :=
  missingFrom (Cells.gb2312.blocks.flatMap fun (_, cs) => cs.toList) 0x4E00 0x9FA5

/-- The rows before the square. -/
def gbkBefore : Layout := ⟨[(0x81, 0xA0)], [(0x40, 0x7E), (0x80, 0xFE)]⟩

/-- The halves of rows beside the ideographs of the square. -/
def gbkBeside : Layout := ⟨[(0xAA, 0xFE)], [(0x40, 0x7E), (0x80, 0xA0)]⟩

/-- The number of cells before the square. -/
def gbkBeforeSize : Nat := gbkBefore.rows.size * gbkBefore.cells.size

/-- The ideograph of a cell outside of the square. -/
def gbkIdeograph? (n : Nat) : Option (List Char) :=
  match gbkIdeographs[n]? with
  | some c => some [c]
  | none => compatible.at? (n - gbkIdeographs.size)

/-- What two octets stand for in the wider rows. -/
def gbkPair? (a b : Nat) : Option (List Char) :=
  (gbkSymbols.at? (a * 0x100 + b)).or <|
    (Cells.gb2312.chosen? highSquare a b).or <|
      ((gbkBefore.number? a b).bind gbkIdeograph?).or <|
        (gbkBeside.number? a b).bind fun n => gbkIdeograph? (gbkBeforeSize + n)

/-- ASCII and the wider rows. -/
def Stateless.gbk : Stateless := .onesAndTwos ascii? gbkPair?

/-- The number of characters of four octets up to U+FFFF. -/
def fourOctetCount : Nat := 39420

/-- The first octet of the characters of four octets beyond U+FFFF. -/
def fourOctetLead : Nat := 0x90

/-- The character of four octets, if they are one: the second and the fourth are digits. -/
def fourOctets? (a b c d : Nat) : Option (List Char) :=
  if 0x81 ≤ a ∧ a ≤ 0xFE ∧ 0x81 ≤ c ∧ c ≤ 0xFE ∧ 0x30 ≤ d ∧ d ≤ 0x39 then
    let place (first : Nat) :=
      (((a - first) * 10 + (b - 0x30)) * 126 + (c - 0x81)) * 10 + (d - 0x30)
    if a < fourOctetLead then
      let n := place 0x81
      if n < fourOctetCount then fourOctetRuns.at? n else none
    else
      let n := 0x10000 + place fourOctetLead
      if n < 0x110000 then some [Char.ofNat n] else none
  else none

/-- ASCII, the widest rows, and characters of four octets. -/
def Stateless.gb18030 : Stateless := fun b rest =>
  if b < 0x80 then .text [plainChar b] 0 ()
  else
    match rest with
    | [] => .ill 0 ()
    | c :: more =>
      if 0x30 ≤ c ∧ c ≤ 0x39 then
        match more with
        | d :: e :: _ => .ofText? (fourOctets? b.toNat c.toNat d.toNat e.toNat) 3 ()
        | _ => .ill rest.length ()
      else
        let n := b.toNat * 0x100 + c.toNat
        .ofText? ((gbkPair? b.toNat c.toNat).or (gb18030Symbols.at? n)) 1 ()

/-- The Chinese square in the lower half of the octets. A tilde and a brace begin and end it; two
tildes are one, and a tilde hides the end of its line. -/
def Reader.hz : Reader Bool := fun inSquare b rest =>
  let c := plainChar b
  if c = '~' then
    match rest.head?.map plainChar, inSquare with
    | some '~', false => .text ['~'] 1 false
    | some '\x7b', false => .text [] 1 true
    | some '\n', false => .text [] 1 false
    | some '\x7d', true => .text [] 1 false
    | _, _ => .ill 0 inSquare
  else if 0x80 ≤ b then .ill 0 inSquare
  else if inSquare then
    .ofText? (rest.head?.bind fun d => Cells.gb2312.chosen? lowSquare b.toNat d.toNat) 1 inSquare
  else .text [c] 0 inSquare

/-! ## Large rows -/

/-- The octets that choose a cell of a large row. -/
def largeRows : Layout := ⟨[(0x81, 0xFE)], [(0x40, 0x7E), (0xA1, 0xFE)]⟩

/-- ASCII and the large rows. -/
def Stateless.big5 : Stateless := .onesAndTwos ascii? (Cells.big5.chosen? largeRows)

/-- What two octets stand for in the code page. -/
def cp950Pair? (a b : Nat) : Option (List Char) := do
  let n ← largeRows.number? a b
  (big5Windows.at? n).or (Cells.big5.at? n)

/-- ASCII and the large rows as the code page has them. -/
def Stateless.cp950 : Stateless := .onesAndTwos ascii? cp950Pair?

/-- Whether a cell lies between the frequent and the rarer ideographs, where everything is added. -/
def isBetween (n : Nat) : Bool := 10896 ≤ n && n < 11304

/-- What two octets stand for in the large rows with what they lack. -/
def hkscsPair? (a b : Nat) : Option (List Char) := do
  let n ← largeRows.number? a b
  (Cells.hkscs.at? n).or (if isBetween n then none else Cells.big5.at? n)

/-- ASCII, the large rows, and what they lack. -/
def Stateless.big5Hkscs : Stateless := .onesAndTwos ascii? hkscsPair?

end SorobanDeploy.Text.Charset
