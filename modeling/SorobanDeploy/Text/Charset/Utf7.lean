import SorobanDeploy.Text.Charset.Reading
import SorobanDeploy.Text.Utf16

/-!
# UTF-7

ASCII stands for itself. A plus sign begins a run of digits of six bits each, which are units of
UTF-16 one after the other. Anything that is no digit ends the run; a hyphen there is dropped. Fewer
than six bits may be left at the end of a run, and all of them are zero.
-/

namespace SorobanDeploy.Text.Charset.Utf7

/-- The value of a digit of six bits. -/
def digitValue? (c : Char) : Option Nat :=
  if c.isUpper then some (c.toNat - 'A'.toNat)
  else if c.isLower then some (c.toNat - 'a'.toNat + 26)
  else if c.isDigit then some (c.toNat - '0'.toNat + 52)
  else if c = '+' then some 62
  else if c = '/' then some 63
  else none

/-- What a reader knows within a run: how many bits are left over, their value, and the first half
of a pair. -/
structure Run where
  bits : Nat
  value : Nat
  half : Option Nat
  deriving DecidableEq, Repr

/-- The beginning of a run. -/
def Run.start : Run := ⟨0, 0, none⟩

/-- The characters that a unit gives, and the first half of a pair that is left. A half without the
other one gives a character of its own. -/
def unit (half : Option Nat) (n : Nat) : List Char × Option Nat :=
  let fresh : List Char × Option Nat :=
    if Utf16.isFirstHalf n then ([], some n) else ([charOf n], none)
  match half with
  | none => fresh
  | some m =>
    if Utf16.isSecondHalf n then ([charOf (Utf16.joinHalves m n)], none)
    else (charOf m :: fresh.1, fresh.2)

/-- The run with six bits more, and the characters that they complete. -/
def Run.push (r : Run) (six : Nat) : Run × List Char :=
  let value := r.value * 64 + six
  let bits := r.bits + 6
  if bits < 16 then ({ r with bits := bits, value := value }, [])
  else
    let above := Nat.pow 2 (bits - 16)
    let (cs, half) := unit r.half (value / above)
    (⟨bits - 16, value % above, half⟩, cs)

/-- Whether a run may not end here, for the bits that are left over. -/
def Run.isRagged (r : Run) : Bool := 6 ≤ r.bits || (0 < r.bits && r.value ≠ 0)

/-- Whether the end of all octets may not be here. -/
def Run.isOpen (r : Run) : Bool := r.half.isSome || r.isRagged

/-- Whether an octet stands for itself outside of a run. -/
def isDirect (b : UInt8) : Bool := b < 0x80 && plainChar b ≠ '+'

/-- Reads an octet outside of a run. -/
def outside (b : UInt8) (rest : Octets) : Step (Option Run) :=
  if plainChar b = '+' then
    match rest.head?.map plainChar with
    | some '-' => .text ['+'] 1 none
    | some c => if (digitValue? c).isSome then .text [] 0 (some .start) else .ill 1 none
    | none => .text [] 0 none
  else if isDirect b then .text [plainChar b] 0 none
  else .ill 0 none

/-- Reads an octet, in a run or outside. The first half of a pair that a run leaves gives a
character only before one that stands for itself. -/
def reader : Reader (Option Run) := fun state b rest =>
  match state with
  | none => outside b rest
  | some r =>
    match digitValue? (plainChar b) with
    | some six =>
      let (next, cs) := r.push six
      let step : Step (Option Run) := .text cs 0 (some next)
      -- All octets end within the run.
      if rest = [] ∧ next.isOpen then { step with parts := step.parts ++ [none] } else step
    | none =>
      if r.isRagged then .ill 0 none
      else
        let left := if isDirect b then r.half.toList.map charOf else []
        if plainChar b = '-' then .text left 0 none
        else
          let step := outside b rest
          { step with parts := left.map some ++ step.parts }

/-- The characters of octets, and nothing for each ill-formed part. -/
def parts (bs : Octets) : List (Option Char) := readAll reader none bs

end SorobanDeploy.Text.Charset.Utf7
