import SorobanDeploy.Text.Alphanumeric
import SorobanDeploy.Text.Digit
import SorobanDeploy.Text.Hex
import SorobanDeploy.Text.Utf8

/-!
# Written octets

What may not stand in a part of an address is written by its octets: a percent sign and two
hexadecimal digits for each. The classes of characters that stand for themselves grow from part to
part. Cleaning with a class leaves only characters of it and written octets (`mem_clean`).
-/

namespace SorobanDeploy.Rpc.Url

open Text

/-! ## Characters that stand for themselves -/

/-- Those that stand for themselves everywhere. -/
def isUnreserved (c : Char) : Bool := c.isAlphanum || c = '.' || c = '_' || c = '-' || c = '~'

/-- Those that stand for themselves before a host. -/
def isUserChar (c : Char) : Bool := isUnreserved c || "!$&'()*+,;=:".toList.contains c

/-- Those that stand for themselves in a path. -/
def isPathChar (c : Char) : Bool := isUserChar c || c = '@' || c = '/'

/-- Those that stand for themselves in a query and in a fragment. -/
def isQueryChar (c : Char) : Bool := isPathChar c || c = '?'

/-- Those that stay as they are when a whole address is cleaned. -/
def isAddressChar (c : Char) : Bool :=
  isUnreserved c || "!#$&'()*+,/:;=?@[]".toList.contains c

/-! ## Writing octets -/

/-- An octet written by its number. -/
def percent (b : UInt8) : List Char :=
  '%' :: (Utf8.hexOctet b).toList.map Char.toUpper

/-- A character written by the numbers of its octets. -/
def percentChar (c : Char) : List Char := (Utf8.encodeChar c).flatMap percent

/-- The octet that two digits write. -/
def hexPair? (a b : Char) : Option Nat := do pure ((← hexValue? a) * 16 + (← hexValue? b))

/-- A text with the digits of its written octets in upper case, and how many of them there are. -/
def upperEscapes : List Char → List Char × Nat
  | '%' :: a :: b :: rest =>
    if isHex a && isHex b then
      let (cs, n) := upperEscapes rest
      ('%' :: a.toUpper :: b.toUpper :: cs, n + 1)
    else
      let (cs, n) := upperEscapes (a :: b :: rest)
      ('%' :: cs, n)
  | c :: rest =>
    let (cs, n) := upperEscapes rest
    (c :: cs, n)
  | [] => ([], 0)
  termination_by s => s.length

/-- A text in which what is of a class stays, and percent signs if they are kept; all else is
written. -/
def writeOthers (allowed : Char → Bool) (keepsPercent : Bool) (cs : List Char) : List Char :=
  cs.flatMap fun c => if (c = '%' && keepsPercent) || allowed c then [c] else percentChar c

/-- A part of an address with every character that may not stand in it written by its octets. The
percent signs stay if all of them write octets already. -/
def clean (allowed : Char → Bool) (s : List Char) : List Char :=
  let (cs, escapes) := upperEscapes s
  writeOthers allowed (escapes = cs.count '%') cs

/-- What stands in a part after cleaning is of the class, or belongs to a written octet. -/
theorem mem_clean (allowed : Char → Bool) (s : List Char) (c : Char) (h : c ∈ clean allowed s) :
    allowed c = true ∨ c = '%' ∨ ∃ d, c ∈ percentChar d := by
  simp only [clean, writeOthers, List.mem_flatMap] at h
  obtain ⟨d, _, hc⟩ := h
  split at hc
  · rename_i hd
    obtain rfl := List.mem_singleton.mp hc
    simp only [Bool.or_eq_true, Bool.and_eq_true, decide_eq_true_eq] at hd
    rcases hd with ⟨hd, _⟩ | hd
    · exact .inr (.inl hd)
    · exact .inl hd
  · exact .inr (.inr ⟨d, hc⟩)

/-! ## Reading written octets -/

/-- An octet as it is written when nothing has to be written that stands for itself. -/
def plainEscape (a b : Char) : List Char :=
  match hexPair? a b with
  | some n =>
    if n < 0x80 ∧ isUnreserved (Char.ofNat n) then [Char.ofNat n] else ['%', a.toUpper, b.toUpper]
  | none => ['%', a, b]

/-- A host name in which written characters that stand for themselves are put in their place, and
the digits of other written octets are in upper case. -/
def plainEscapes : List Char → List Char
  | '%' :: a :: b :: rest => plainEscape a b ++ plainEscapes rest
  | c :: rest => c :: plainEscapes rest
  | [] => []

/-- The octet that two digits write, where the decimal digits of all scripts count. -/
def anyHexPair? (a b : Char) : Option Nat := do
  let value? (c : Char) : Option Nat := (digitValue? c).or (hexValue? c)
  pure ((← value? a) * 16 + (← value? b))

/-- An address in which written characters that stand for themselves are put in their place; or
nothing if a percent sign stands before other letters or numbers. -/
def unescapeUnreserved : List Char → Option (List Char)
  | '%' :: a :: b :: rest =>
    if isAlphanumeric a && isAlphanumeric b then
      match anyHexPair? a b with
      | none => none
      | some n =>
        let shown := if n < 0x80 ∧ isUnreserved (Char.ofNat n) then [Char.ofNat n] else ['%', a, b]
        (unescapeUnreserved rest).map (shown ++ ·)
    else (unescapeUnreserved (a :: b :: rest)).map ('%' :: ·)
  | c :: rest => (unescapeUnreserved rest).map (c :: ·)
  | [] => some []
  termination_by s => s.length

/-- A whole address with the rest of what may not stand in it written by its octets. -/
def requote (s : List Char) : List Char :=
  match unescapeUnreserved s with
  | some cs => writeOthers isAddressChar true cs
  | none => writeOthers isAddressChar false s

/-- The octets of ASCII text, where written octets are put in their place. -/
def writtenOctets : List Char → Octets
  | '%' :: a :: b :: rest =>
    match hexPair? a b with
    | some n => UInt8.ofNat n :: writtenOctets rest
    | none => 0x25 :: writtenOctets (a :: b :: rest)
  | c :: rest => UInt8.ofNat c.toNat :: writtenOctets rest
  | [] => []
  termination_by s => s.length

/-- A text with written octets read: each run of ASCII is read as octets of text, where the
replacement character stands for what is ill-formed. -/
def unescape : List Char → List Char
  | [] => []
  | c :: rest =>
    if c.toNat < 0x80 then
      let run := c :: rest.takeWhile (·.toNat < 0x80)
      (Utf8.parts (writtenOctets run)).map (·.getD '\uFFFD')
        ++ unescape (rest.dropWhile (·.toNat < 0x80))
    else c :: unescape rest
  termination_by s => s.length
  decreasing_by
    · have := (List.dropWhile_sublist (l := rest) (fun c => decide (c.toNat < 0x80))).length_le
      simp only [List.length_cons]
      omega
    · simp

end SorobanDeploy.Rpc.Url
