import SorobanDeploy.Text.Utf8

/-!
# UTF-16

Sixteen-bit units, and the pairs of them that stand for the characters beyond the first 65536. A
half of a pair that has no other half is no character.
-/

namespace SorobanDeploy.Text.Utf16

/-- Whether a unit is the first half of a pair. -/
def isFirstHalf (n : Nat) : Bool := 0xD800 ≤ n && n ≤ 0xDBFF

/-- Whether a unit is the second half of a pair. -/
def isSecondHalf (n : Nat) : Bool := 0xDC00 ≤ n && n ≤ 0xDFFF

/-- The code point of a pair. -/
def joinHalves (m n : Nat) : Nat := 0x10000 + (m - 0xD800) * 0x400 + (n - 0xDC00)

/-- The order of the octets of a unit. -/
inductive ByteOrder where
  | little
  | big
  deriving DecidableEq, Repr

/-- The number of two octets. -/
def unit (order : ByteOrder) (a b : UInt8) : Nat :=
  match order with
  | .little => b.toNat * 0x100 + a.toNat
  | .big => a.toNat * 0x100 + b.toNat

/-- The characters of octets, and nothing for each ill-formed part, with the first half of a pair
perhaps read. A first half at the end takes what is left with it. -/
def partsFrom (order : ByteOrder) : Option Nat → Octets → List (Option Char)
  | none, [] => []
  | some _, [] => [none]
  | _, [_] => [none]
  | state, a :: b :: rest =>
    let n := unit order a b
    let fresh : List (Option Char) :=
      if isSecondHalf n then none :: partsFrom order none rest
      else if isFirstHalf n then partsFrom order (some n) rest
      else some (Char.ofNat n) :: partsFrom order none rest
    match state with
    | none => fresh
    | some m =>
      if isSecondHalf n then some (Char.ofNat (joinHalves m n)) :: partsFrom order none rest
      else none :: fresh

/-- The characters of octets, and nothing for each ill-formed part. -/
def parts (order : ByteOrder) (bs : Octets) : List (Option Char) := partsFrom order none bs

end SorobanDeploy.Text.Utf16
