import SorobanDeploy.Text.Split

/-!
# Filling lines

A text of words with one blank between them is cut into chunks, words and blanks, and the chunks
fill lines of a width. A line neither begins nor ends with a blank, but for the beginning of the
text. A chunk that is too long for any line is cut.
-/

namespace SorobanDeploy.Text

/-- The parts of a word, which may be parted after a hyphen between letters, two on each side. -/
def hyphenParts : List Char → List Char → List (List Char)
  | part, [] => if part = [] then [] else [part.reverse]
  | part, c :: rest =>
    let between (letters : List Char) : Bool := letters.length = 2 && letters.all Char.isAlpha
    if c = '-' && between (part.take 2) && between (rest.take 2) then
      (c :: part).reverse :: hyphenParts [] rest
    else hyphenParts (c :: part) rest

/-- The chunks of a text: its words, which may be parted at hyphens, and the blanks between them. -/
def chunks (s : String) : List (List Char) :=
  List.intercalate [[' ']] ((splitOn ' ' s.toList).map (hyphenParts []))

/-- Lines while they are filled: those that are full, and the chunks of the next one, both with the
last one first. -/
structure Filling where
  full : List (List Char)
  line : List (List Char)

namespace Filling

/-- How many characters the next line has. -/
def size (f : Filling) : Nat := f.line.foldl (fun n c => n + c.length) 0

/-- Whether a chunk is a blank, or nothing at all. -/
def isGap (chunk : List Char) : Bool := chunk.all (· = ' ')

/-- The next line becomes a full one, without a blank at its end. -/
def close (f : Filling) : Filling :=
  let line := match f.line with
    | chunk :: rest => if isGap chunk then rest else f.line
    | [] => []
  ⟨if line = [] then f.full else line.reverse.flatten :: f.full, []⟩

/-- Where a chunk is cut that is too long for a line: behind its last hyphen that fits, or where
the room ends. -/
def cutAt (room : Nat) (chunk : List Char) : Nat :=
  let fitting := chunk.take room
  let behind := (fitting.reverse.takeWhile (· ≠ '-')).length
  let before := fitting.take (fitting.length - behind - 1)
  if fitting.contains '-' && before.any (· ≠ '-') then before.length + 1 else room

/-- One more chunk, or its parts if it is too long for any line. -/
def place (width : Nat) : Nat → Filling → List Char → Filling
  | 0, f, _ => f
  | fuel + 1, f, chunk =>
    if f.line = [] ∧ f.full ≠ [] ∧ isGap chunk then f
    else if f.size + chunk.length ≤ width then { f with line := chunk :: f.line }
    else if width < chunk.length then
      let cut := cutAt (width - f.size) chunk
      place width fuel (close { f with line := chunk.take cut :: f.line }) (chunk.drop cut)
    else place width fuel f.close chunk

end Filling

/-- The lines that a text fills, each of at most a width. -/
def fill (width : Nat) (s : String) : List String :=
  -- A chunk is cut at most once for each of its characters, and once more to end a line.
  let start : Filling := ⟨[], []⟩
  let filled := (chunks s).foldl (fun f c => Filling.place width (c.length + 2) f c) start
  filled.close.full.reverse.map String.ofList

end SorobanDeploy.Text
