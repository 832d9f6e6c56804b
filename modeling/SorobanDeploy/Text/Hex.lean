/-!
# Hexadecimal digits

Numbers as hexadecimal digits and back. A digit that is written is read back (`hexValue?_hexDigit`).
-/

namespace SorobanDeploy.Text

/-- The last `width` hexadecimal digits of a number, in lower case. -/
def hexDigits (width n : Nat) : List Char :=
  let digits := Nat.toDigits 16 n
  List.replicate (width - digits.length) '0' ++ digits

/-- The value of a hexadecimal digit. -/
def hexValue? (c : Char) : Option Nat :=
  if c.isDigit then some (c.toNat - '0'.toNat)
  else if 'a' ≤ c ∧ c ≤ 'f' then some (c.toNat - 'a'.toNat + 10)
  else if 'A' ≤ c ∧ c ≤ 'F' then some (c.toNat - 'A'.toNat + 10)
  else none

/-- Whether a character is a hexadecimal digit. -/
def isHex (c : Char) : Bool := (hexValue? c).isSome

/-- The number that characters write as hexadecimal digits, if all of them are. -/
def hexNumber? (cs : List Char) : Option Nat :=
  cs.foldl (fun n c => do pure ((← n) * 16 + (← hexValue? c))) (some 0)

/-- The digits that write the values below sixteen have these values. -/
theorem hexValue?_hexDigit : ∀ d < 16, (Nat.toDigits 16 d).map hexValue? = [some d] := by
  decide

end SorobanDeploy.Text
