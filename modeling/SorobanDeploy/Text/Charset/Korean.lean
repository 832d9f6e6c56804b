import SorobanDeploy.Text.Charset.Cells.KsX1001
import SorobanDeploy.Text.Charset.Reading

/-!
# Korean sets

A syllable has an initial, a medial and perhaps a final letter, and the code points of all syllables
follow from theirs. The Korean square holds the frequent syllables; the sets differ in how they
write the others.
-/

namespace SorobanDeploy.Text.Charset

/-! ## Syllables and their letters -/

/-- The letters that begin a syllable, in order. -/
def initials : List Char := "ㄱㄲㄴㄷㄸㄹㅁㅂㅃㅅㅆㅇㅈㅉㅊㅋㅌㅍㅎ".toList

/-- The letters that end a syllable, in order. -/
def finals : List Char := "ㄱㄲㄳㄴㄵㄶㄷㄹㄺㄻㄼㄽㄾㄿㅀㅁㅂㅄㅅㅆㅇㅈㅊㅋㅌㅍㅎ".toList

/-- The first of the medial letters, which follow one another. -/
def firstMedial : Nat := 0x314F

/-- The number of medial letters. -/
def medialCount : Nat := 21

/-- The syllable of letters by their places. The place 0 is no final letter. -/
def syllable (initial medial final : Nat) : Char :=
  Char.ofNat (0xAC00 + (initial * medialCount + medial) * (finals.length + 1) + final)

-- The first and the last syllable are those of the first and the last letters.
example : syllable 0 0 0 = '가' ∧ syllable 18 20 27 = '힣' := by decide

/-! ## The Korean square -/

/-- The letter in the cell of an octet. -/
def letterOf (n : Nat) : Char := Char.ofNat (0x3131 + (n - 0xA1))

/-- The octet of the row that holds the letters. -/
def letterRow : UInt8 := 0xA4

/-- The octet of the filler in that row. -/
def fillerOctet : UInt8 := 0xD4

/-- The place of a letter that a final octet stands for, which is 0 for the filler. -/
def finalPlace? (n : Nat) : Option Nat :=
  if n = fillerOctet.toNat then some 0 else (finals.idxOf? (letterOf n)).map (· + 1)

/-- The syllable of the three octets of its letters. -/
def composed? (initial medial final : Nat) : Option (List Char) := do
  if initial < 0xA1 ∨ medial < 0xA1 ∨ final < 0xA1 then none
  let i ← initials.idxOf? (letterOf initial)
  let m := (letterOf medial).toNat
  if m < firstMedial ∨ firstMedial + medialCount ≤ m then none
  let f ← finalPlace? final
  pure [syllable i (m - firstMedial) f]

/-- ASCII and the Korean square. A syllable that it lacks is written as the filler and the letters
in the square, eight octets in all. -/
def Stateless.eucKr : Stateless := fun b rest =>
  if b < 0x80 then .text [plainChar b] 0 ()
  else
    match rest with
    | [] => .ill 0 ()
    | c :: more =>
      if b = letterRow ∧ c = fillerOctet then
        match more with
        | a :: initial :: d :: medial :: e :: final :: _ =>
          if a = letterRow ∧ d = letterRow ∧ e = letterRow then
            .ofText? (composed? initial.toNat medial.toNat final.toNat) 7 ()
          else .ill 0 ()
        | _ => .ill rest.length ()
      else .ofText? (Cells.ksX1001.chosen? highSquare b.toNat c.toNat) 1 ()

/-! ## All syllables beside the square -/

/-- The syllables that the Korean square lacks, in order. -/
def otherSyllables : Array Char :=
  missingFrom (Cells.ksX1001.blocks.flatMap fun (_, cs) => cs.toList) 0xAC00 0xD7A3

/-- The rows before the square. -/
def uhcBefore : Layout := ⟨[(0x81, 0xA0)], [(0x41, 0x5A), (0x61, 0x7A), (0x81, 0xFE)]⟩

/-- The parts of rows beside the square. -/
def uhcBeside : Layout := ⟨[(0xA1, 0xC6)], [(0x41, 0x5A), (0x61, 0x7A), (0x81, 0xA0)]⟩

/-- The number of cells before the square. -/
def uhcBeforeSize : Nat := uhcBefore.rows.size * uhcBefore.cells.size

/-- What two octets stand for in the code page. -/
def cp949Pair? (a b : Nat) : Option (List Char) :=
  (Cells.ksX1001.chosen? highSquare a b).or <| do
    let n ← (uhcBefore.number? a b).or ((uhcBeside.number? a b).map (uhcBeforeSize + ·))
    pure [← otherSyllables[n]?]

/-- ASCII, the Korean square, and all other syllables around it. -/
def Stateless.cp949 : Stateless := .onesAndTwos ascii? cp949Pair?

/-! ## Letters in five bits each -/

/-- What five bits say of a letter. -/
inductive Slot where
  | empty
  | letter (place : Nat)
  deriving DecidableEq, Repr

/-- What five bits say, by the numbers that stand for letters in order and the one for none. -/
def slot? (filler : Nat) (letters : List Nat) (n : Nat) : Option Slot :=
  if n = filler then some .empty else (letters.idxOf? n).map .letter

/-- The numbers of initial letters. -/
def initialNumbers : List Nat := (List.range 19).map (2 + ·)

/-- The numbers of medial letters, which leave out some. -/
def medialNumbers : List Nat :=
  [3, 4, 5, 6, 7, 10, 11, 12, 13, 14, 15, 18, 19, 20, 21, 22, 23, 26, 27, 28, 29]

/-- The numbers of final letters, which leave out one. -/
def finalNumbers : List Nat := (List.range 16).map (2 + ·) ++ (List.range 11).map (19 + ·)

/-- The letter or the syllable of sixteen bits: one letter alone, or an initial and a medial one
with perhaps a final one. -/
def johabLetters? (n : Nat) : Option (List Char) := do
  let i ← slot? 1 initialNumbers (n / 0x400 % 0x20)
  let m ← slot? 2 medialNumbers (n / 0x20 % 0x20)
  let f ← slot? 1 finalNumbers (n % 0x20)
  match i, m, f with
  | .empty, .empty, .empty => pure ['\u3000']
  | .letter i, .empty, .empty => pure [← initials[i]?]
  | .empty, .letter m, .empty => pure [Char.ofNat (firstMedial + m)]
  | .empty, .empty, .letter f => pure [← finals[f]?]
  | .letter i, .letter m, .empty => pure [syllable i m 0]
  | .letter i, .letter m, .letter f => pure [syllable i m (f + 1)]
  | _, _, _ => none

/-- The octets that choose a cell of the square: each row of them holds two rows of the square. -/
def johabCells : Runs := [(0x31, 0x7E), (0x91, 0xFE)]

/-- The rows of the square that begin each part of it, by the octet that chooses them. -/
def johabRow? (a : Nat) : Option Nat :=
  if 0xD9 ≤ a ∧ a < 0xDF then some (2 * (a - 0xD9))
  else if 0xE0 ≤ a ∧ a ≤ 0xF9 then some (2 * (a - 0xE0) + 41)
  else none

/-- What two octets choose outside of the syllables. The letters of the square are left out. -/
def johabSigns? (a b : Nat) : Option (List Char) :=
  if a = 0xDA ∧ 0xA1 ≤ b ∧ b ≤ 0xD3 then none
  else do
    let row ← johabRow? a
    let cell ← johabCells.place? b
    Cells.ksX1001.at? (row * 94 + cell)

/-- ASCII, syllables by the numbers of their letters, and the signs and ideographs of the square. -/
def Stateless.johab : Stateless :=
  .onesAndTwos ascii? fun a b =>
    if a < 0xD8 then johabLetters? (a * 0x100 + b) else johabSigns? a b

end SorobanDeploy.Text.Charset
