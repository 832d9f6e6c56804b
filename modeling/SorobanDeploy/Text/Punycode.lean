/-!
# Text as gaps

A text that is not all ASCII is written in ASCII: the ASCII characters of the text, a hyphen, and
then the others as a sequence of gaps. A gap is the number of positions, over all characters in
ascending order, that are passed before the next one is put in its place. It is written in digits of
base 36 whose number of values depends on the gaps before it.

A gap takes at least one digit, so reading ends (`readGap_shorter`).
-/

namespace SorobanDeploy.Text.Punycode

/-! ## Digits -/

/-- The digit of a value below 36. -/
def digit (d : Nat) : Char :=
  Char.ofNat (if d < 26 then 'a'.toNat + d else '0'.toNat + (d - 26))

/-- The value of a digit, in small or in capital letters. -/
def digitValue? (c : Char) : Option Nat :=
  if c.isLower then some (c.toNat - 'a'.toNat)
  else if c.isUpper then some (c.toNat - 'A'.toNat)
  else if c.isDigit then some (c.toNat - '0'.toNat + 26)
  else none

/-- The least value that does not end a number at a digit, which stands at `place`. -/
def threshold (bias place : Nat) : Nat :=
  if place ≤ bias then 1 else if bias + 26 ≤ place then 26 else place - bias

/-- Every number ends at a digit that is small enough. -/
theorem threshold_pos (bias place : Nat) : 1 ≤ threshold bias place := by
  unfold threshold
  split
  · omega
  · split <;> omega

/-- The place of the first digit of a number, and how far the places are apart. -/
def placeStep : Nat := 36

/-- The first code point that is written as a gap. -/
def firstCode : Nat := 0x80

/-- The bias before the first gap. -/
def firstBias : Nat := 72

/-- How often a number is divided until it is small, counted in steps of 36, and what is left. -/
def reduce (n : Nat) : Nat × Nat :=
  if 455 < n then
    let (places, rest) := reduce (n / 35)
    (places + placeStep, rest)
  else (0, n)
  termination_by n
  decreasing_by omega

/-- The bias after a gap, when `count` characters are placed. -/
def adapt (gap count : Nat) (isFirst : Bool) : Nat :=
  let scaled := if isFirst then gap / 700 else gap / 2
  let (places, rest) := reduce (scaled + scaled / count)
  places + 36 * rest / (rest + 38)

/-! ## Writing -/

/-- The digits of a number from a place on. -/
def digits (bias place n : Nat) : List Char :=
  let t := threshold bias place
  if n < t then [digit n]
  else digit (t + (n - t) % (36 - t)) :: digits bias (place + placeStep) ((n - t) / (36 - t))
  termination_by n
  decreasing_by
    rename_i h
    have hpos := threshold_pos bias place
    have := Nat.div_le_self (n - threshold bias place) (36 - threshold bias place)
    omega

/-- What is written so far: the digits, the gap that runs, the bias, and the number of characters
that are placed. -/
structure Progress where
  written : List Char
  gap : Nat
  bias : Nat
  count : Nat
  deriving DecidableEq, Repr

/-- Passing one character of the text when those with the code point `n` are placed. -/
def Progress.pass (ascii n : Nat) (p : Progress) (c : Char) : Progress :=
  if c.toNat < n then { p with gap := p.gap + 1 }
  else if c.toNat = n then
    { written := p.written ++ digits p.bias placeStep p.gap
      gap := 0
      bias := adapt p.gap (p.count + 1) (p.count = ascii)
      count := p.count + 1 }
  else p

/-- Placing the characters with one code point after another, in ascending order. -/
def Progress.placeAll (text : List Char) (ascii : Nat) : List Nat → Nat → Progress → Progress
  | [], _, p => p
  | n :: rest, next, p =>
    let p := { p with gap := p.gap + (n - next) * (p.count + 1) }
    let p := text.foldl (Progress.pass ascii n) p
    placeAll text ascii rest (n + 1) { p with gap := p.gap + 1 }

/-- The first of each run of equal numbers. -/
def dropRepeats : List Nat → List Nat
  | [] => []
  | n :: rest => n :: (dropRepeats rest).filter (· ≠ n)

/-- A text in ASCII. -/
def encode (text : List Char) : List Char :=
  let ascii := text.filter (·.toNat < firstCode)
  let others := (text.filter (firstCode ≤ ·.toNat)).map Char.toNat
  let codes := dropRepeats (others.mergeSort (· ≤ ·))
  let p := Progress.placeAll text ascii.length codes firstCode ⟨[], 0, firstBias, ascii.length⟩
  ascii ++ (if ascii = [] then [] else ['-']) ++ p.written

/-! ## Reading -/

/-- The gap that digits write from a place on, and what follows; nothing if the digits end too early
or a character is no digit. -/
def readGap (bias : Nat) : Nat → Nat → Nat → List Char → Option (Nat × List Char)
  | _, _, _, [] => none
  | place, weight, value, c :: rest =>
    match digitValue? c with
    | none => none
    | some d =>
      if d < threshold bias place then some (value + d * weight, rest)
      else
        readGap bias (place + placeStep) (weight * (36 - threshold bias place))
          (value + d * weight) rest

/-- A gap takes at least one digit. -/
theorem readGap_shorter (bias : Nat) (cs : List Char) (place weight value : Nat)
    (r : Nat × List Char) (h : readGap bias place weight value cs = some r) :
    r.2.length < cs.length := by
  induction cs generalizing place weight value with
  | nil => simp [readGap] at h
  | cons c rest ih =>
    simp only [readGap] at h
    split at h
    · simp at h
    · split at h
      · obtain rfl := Option.some.inj h
        simp
      · have := ih _ _ _ h
        simp only [List.length_cons]
        omega

/-- What is read so far: the text, the last code point, the position behind it, and the bias. -/
structure Reading where
  text : List Char
  code : Nat
  position : Nat
  bias : Nat
  isFirst : Bool
  deriving DecidableEq, Repr

namespace Reading

/-- The reading after a gap, and whether the character is one. In place of a code point that is too
great a question mark is put. -/
def pass (r : Reading) (gap : Nat) : Reading × Bool :=
  let count := r.text.length + 1
  let position := r.position + gap
  let code := r.code + position / count
  let inRange := code < 0x110000
  let code := if inRange then code else '?'.toNat
  let isChar := code.isValidChar
  let c := if isChar then Char.ofNat code else '\uFFFD'
  let place := position % count
  ({ text := r.text.take place ++ c :: r.text.drop place
     code := code
     position := place + 1
     bias := adapt gap count r.isFirst
     isFirst := false }, inRange && isChar)

/-- The text with all gaps read, and whether all of them were well-formed. Reading stops at a gap
that is not. -/
def finish (r : Reading) (written : List Char) : List Char × Bool :=
  if written = [] then (r.text, true)
  else
    match _h : readGap r.bias placeStep 1 0 written with
    | none => (r.text, false)
    | some (gap, rest) =>
      let (next, isWell) := r.pass gap
      let (text, areWell) := finish next rest
      (text, isWell && areWell)
  termination_by written.length
  decreasing_by exact readGap_shorter _ _ _ _ _ _ _h

end Reading

/-- What stands before the last hyphen, and what stands behind it. -/
def splitLast (cs : List Char) : List Char × List Char :=
  let behind := (cs.reverse.takeWhile (· ≠ '-')).reverse
  (cs.take (cs.length - behind.length - 1), behind)

/-- The text of gaps behind the characters that stand for themselves, and whether it was
well-formed. -/
def insertAll (plain gaps : List Char) : List Char × Bool :=
  Reading.finish ⟨plain, firstCode, 0, firstBias, true⟩ gaps

/-- The text that is written in ASCII, if it is well-formed. -/
def decode? (cs : List Char) : Option (List Char) :=
  let (plain, gaps) := splitLast cs
  let (text, isWell) := insertAll plain gaps
  if isWell then some text else none

end SorobanDeploy.Text.Punycode
