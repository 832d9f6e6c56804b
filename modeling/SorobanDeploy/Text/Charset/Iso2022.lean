import SorobanDeploy.Pairs
import SorobanDeploy.Text.Charset.Chinese
import SorobanDeploy.Text.Charset.Japanese
import SorobanDeploy.Text.Charset.Korean

/-!
# Sets that are switched by sequences

In these sets all octets are in the lower half. A sequence that begins with an escape puts a set of
characters into one of three places; the octets after it are read by the set in the first place, or
between two controls by that in the second. The third place serves one character at a time.

The sets that a form allows are a list, and no other set comes into a place: that is all that the
forms differ in, apart from the controls and the third place.
-/

namespace SorobanDeploy.Text.Charset.Iso2022

/-- The sets that come into a place. -/
inductive Content where
  | ascii
  | jisRoman
  | kana
  | jisX0208
  | jisX0212
  | widerFirst (edition : Edition)
  | widerSecond
  | gb2312
  | ksX1001
  | latin
  | greek
  deriving DecidableEq, Repr

/-- Whether the characters of a set take two octets. -/
def Content.isDouble : Content → Bool
  | .ascii | .jisRoman | .kana | .latin | .greek => false
  | _ => true

/-- How a sequence names a set: whether it says that the set is double, and its last octet. -/
structure Designator where
  isDouble : Bool
  final : Char
  deriving DecidableEq, Repr

/-- A form: the sets that it allows, whether two controls choose between the places, whether there
is a third place, and whether a sequence may announce another. -/
structure Form where
  contents : Pairs Designator Content
  shifts : Bool
  hasThird : Bool
  announces : Bool
  deriving DecidableEq, Repr

/-- The designator of ASCII, which every form allows. -/
def asciiDesignator : Designator := ⟨false, 'B'⟩

/-- The set that a sequence asks for, if the form allows it. -/
def Form.content? (f : Form) (d : Designator) : Option Content :=
  if d = asciiDesignator then some .ascii else Pairs.get? d f.contents

/-- The places. -/
inductive Place where
  | first
  | second
  | third
  deriving DecidableEq, Repr

/-- What a reader knows between two octets: what is in the places, whether the second one is used,
and whether it is in a sequence of another kind, which is passed on as it is. -/
structure State where
  first : Content
  second : Content
  third : Content
  isShifted : Bool
  isPassing : Bool
  deriving DecidableEq, Repr

/-- Before the first sequence, ASCII is in all places. -/
def State.start : State := ⟨.ascii, .ascii, .ascii, false, false⟩

/-- Puts a set into a place. -/
def State.put (s : State) : Place → Content → State
  | .first, c => { s with first := c }
  | .second, c => { s with second := c }
  | .third, c => { s with third := c }

/-! ## Sequences -/

/-- The octet that begins a sequence. -/
def escape : Char := '\x1b'

/-- Whether an octet begins a sequence for sets, behind the escape. -/
def opensSequence (c : Char) : Bool := ['(', ')', '$', '.', '&'].contains c

/-- Whether an octet ends a sequence. -/
def endsSequence (c : Char) : Bool := ('A' ≤ c && c ≤ 'Z') || c = '@'

/-- How far a sequence goes. -/
inductive Extent where
  /-- It ends behind so many octets. -/
  | ends (length : Nat)
  /-- It is longer than any sequence. -/
  | endless
  /-- The octets end before it does. -/
  | cutOff
  deriving DecidableEq, Repr

/-- How far a sequence goes of which `seen` octets are seen, with room for `left` more. An announced
sequence begins with an escape of its own, which is passed over. -/
def extent (announces : Bool) (left seen : Nat) (cs : List Char) : Extent :=
  match left, cs with
  | 0, _ => .endless
  | _ + 1, [] => .cutOff
  | left + 1, c :: rest =>
    if endsSequence c then .ends (seen + 1)
    else if announces ∧ c = '&' ∧ rest.head? = some '@' then
      extent announces (left - 2) (seen + 3) (rest.drop 2)
    else extent announces left (seen + 1) rest
  termination_by left

/-- The greatest length of a sequence. -/
def maxLength : Nat := 16

/-- The place and the set that a sequence asks for. -/
def request? (f : Form) : List Char → Option (Place × Designator)
  | [_, '$', c] => some (.first, ⟨true, c⟩)
  | [_, '(', c] => some (.first, ⟨false, c⟩)
  | [_, ')', c] => some (.second, ⟨false, c⟩)
  | [_, '.', c] => if f.hasThird then some (.third, ⟨false, c⟩) else none
  | [_, '$', '(', c] => some (.first, ⟨true, c⟩)
  | [_, '$', ')', c] => some (.second, ⟨true, c⟩)
  | [_, _, _, '\x1b', '$', 'B'] => if f.announces then some (.first, ⟨true, 'B'⟩) else none
  | _ => none

/-- Reads a sequence for sets, behind its escape. -/
def readSequence (f : Form) (s : State) (rest : Octets) : Step State :=
  let cs := (rest.take maxLength).map plainChar
  match extent f.announces (maxLength - 1) 1 cs with
  | .cutOff => .ill rest.length s
  | .endless => .ill 0 s
  | .ends length =>
    let asked := (request? f (escape :: cs.take (length - 1))).bind fun (place, d) =>
      (f.content? d).map (s.put place)
    match asked with
    | some next => .text [] (length - 1) next
    | none => .ill (length - 1) s

/-! ## Characters -/

/-- What one octet stands for in a set. -/
def Content.one? : Content → Nat → Option (List Char)
  | .ascii, n => some [Char.ofNat n]
  | .jisRoman, n => (jisRoman? n).map ([·])
  | .kana, n => (kana? (n + 0x80)).map ([·])
  | _, _ => none

/-- What two octets stand for in a set. -/
def Content.two? (c : Content) (a b : Nat) : Option (List Char) := do
  let n ← lowSquare.number? a b
  match c with
  | .jisX0208 => Cells.jisX0208.at? n
  | .jisX0212 => Cells.jisX0212.at? n
  | .widerFirst e => widerFirst? e n
  | .widerSecond => Cells.jisX0213Second.at? n
  | .gb2312 => Cells.gb2312.at? n
  | .ksX1001 => Cells.ksX1001.at? n
  | _ => none

/-- The Greek set: the upper half of octets. -/
def greekTable : Table := Table.ofText
  "80-A0>80 A1-A2>2018 A3>A3 A6-A9>A6 AB-AD>AB AF>2015 B0-B3>B0 B4-B6>384 B7>B7 B8-BA>388 BB>BB
  BC>38C BD>BD BE-D1>38E D3-FE>3A3"

/-- What the set in the third place has for an octet. -/
def Content.third? : Content → Nat → Option (List Char)
  | .latin, n => if n < 0x80 then some [Char.ofNat (n + 0x80)] else none
  | .greek, n => if n < 0x80 then greekTable.at? (n + 0x80) else some [Char.ofNat (n - 0x80)]
  | .ascii, n => if n < 0x80 then some [Char.ofNat n] else none
  | _, _ => none

/-- Reads a character by the set in a place. One of two octets that stand for nothing is ill-formed
as a whole. -/
def readBy (c : Content) (s : State) (b : UInt8) (rest : Octets) : Step State :=
  if c.isDouble then
    match rest with
    | [] => .ill 0 s
    | d :: _ =>
      match c.two? b.toNat d.toNat with
      | some cs => .text cs 1 s
      | none => .ill 1 s
  else .ofText? (c.one? b.toNat) 0 s

/-- Reads one character of the set in the third place, behind the escape and a letter. -/
def readThird (s : State) : Octets → Step State
  | _ :: c :: _ =>
    match s.third.third? c.toNat with
    | some cs => .text cs 2 s
    | none => .ill 2 s
  | rest => .ill rest.length s

/-- Reads octets in a form. -/
def reader (f : Form) : Reader State := fun s b rest =>
  let c := plainChar b
  if s.isPassing then .text [c] 0 { s with isPassing := !endsSequence c }
  else if c = escape then
    match rest.head?.map plainChar with
    | none => .ill 0 s
    | some d =>
      if opensSequence d then readSequence f s rest
      else if f.hasThird ∧ d = 'N' then readThird s rest
      else .text [c] 0 { s with isPassing := true }
  else if f.shifts ∧ c = '\x0e' then .text [] 0 { s with isShifted := true }
  else if f.shifts ∧ c = '\x0f' then .text [] 0 { s with isShifted := false }
  else if c = '\n' then .text [c] 0 { s with isShifted := false }
  else if c < ' ' then .text [c] 0 s
  else if 0x80 ≤ b then .ill 0 s
  else readBy (if s.isShifted then s.second else s.first) s b rest

/-- The characters of octets in a form, and nothing for each ill-formed part. -/
def parts (f : Form) (bs : Octets) : List (Option Char) := readAll (reader f) .start bs

/-! ## The forms -/

/-- The Japanese square, and its older edition. -/
def japanese : Pairs Designator Content := [(⟨true, 'B'⟩, .jisX0208), (⟨true, '@'⟩, .jisX0208)]

namespace Form

/-- The Japanese square and the Roman set. -/
def jp : Form := ⟨japanese ++ [(⟨false, 'J'⟩, .jisRoman)], false, false, true⟩

/-- The supplementary square in addition. -/
def jp1 : Form := { jp with contents := (⟨true, 'D'⟩, .jisX0212) :: jp.contents }

/-- The squares of the neighbours in addition, and the accented and Greek letters. -/
def jp2 : Form where
  contents := [(⟨true, 'C'⟩, .ksX1001), (⟨true, 'A'⟩, .gb2312), (⟨false, 'A'⟩, .latin),
    (⟨false, 'F'⟩, .greek)] ++ jp1.contents
  shifts := false
  hasThird := true
  announces := true

/-- The Japanese square and the wider ones in an edition. -/
def wider (final : Char) (e : Edition) : Form where
  contents := [(⟨true, 'B'⟩, .jisX0208), (⟨true, final⟩, .widerFirst e),
    (⟨true, 'P'⟩, .widerSecond)]
  shifts := false
  hasThird := false
  announces := true

/-- The wider squares in their first edition. -/
def jp3 : Form := wider 'O' .first

/-- The wider squares in their second edition. -/
def jp2004 : Form := wider 'Q' .second

/-- The squares, the Roman set, and the narrow kana. -/
def jpExtended : Form :=
  { jp1 with contents := (⟨false, 'I'⟩, .kana) :: jp1.contents }

/-- The Korean square in the second place. -/
def kr : Form := ⟨[(⟨true, 'C'⟩, .ksX1001)], true, false, false⟩

end Form

end SorobanDeploy.Text.Charset.Iso2022
