/-!
# Double-precision numbers

A finite number is an exact `m · 2 ^ q` with `m` below `2 ^ 53` and `q` at least `-1074`, so that
everything about it is arithmetic on natural numbers. A decimal is read to the nearest such number,
and a tie goes to the even `m`.
-/

namespace SorobanDeploy

/-- A double-precision number. -/
inductive Binary64 where
  | nan
  | infinite (negative : Bool)
  | finite (negative : Bool) (significand : Nat) (exponent : Int)
  deriving DecidableEq, Repr

namespace Binary64

/-- The quotient rounded to the nearest integer; a half goes to the even neighbour. -/
def roundDiv (num den : Nat) : Nat :=
  let whole := num / den
  let twice := 2 * (num % den)
  if twice < den then whole
  else if den < twice then whole + 1
  else whole + whole % 2

/-- The number of significant bits. -/
def precision : Nat := 53

/-- The least exponent of a finite number. -/
def leastExponent : Int := -1074

/-- The greatest exponent of a finite number. -/
def greatestExponent : Int := 971

/-- A power of two. -/
def twoTo (n : Nat) : Nat := Nat.pow 2 n

/-- A power of ten. -/
def tenTo (n : Nat) : Nat := Nat.pow 10 n

/-- The fraction `num / den · 2 ^ (-q)` rounded to an integer. -/
def scaled (num den : Nat) (q : Int) : Nat :=
  if 0 ≤ q then roundDiv num (den * twoTo q.toNat) else roundDiv (num * twoTo (-q).toNat) den

/-- The double nearest to a positive fraction. -/
def ofFraction (negative : Bool) (num den : Nat) : Binary64 :=
  let guess : Int := (num.log2 : Int) - den.log2 - precision
  let fits (q : Int) : Bool := scaled num den q < twoTo precision
  let fitting := if fits guess then guess else guess + 1
  let q := if fitting < leastExponent then leastExponent else fitting
  let m := scaled num den q
  let (m, q) := if m = twoTo precision then (twoTo (precision - 1), q + 1) else (m, q)
  if greatestExponent < q then .infinite negative else .finite negative m q

/-- The double nearest to `n · 10 ^ e`. Beyond the range of doubles by many orders of magnitude,
no power is computed. -/
def ofDecimal (negative : Bool) (n : Nat) (e : Int) : Binary64 :=
  let size : Int := (Nat.toDigits 10 n).length + e
  if n = 0 ∨ size < -400 then .finite negative 0 leastExponent
  else if 400 < size then .infinite negative
  else if 0 ≤ e then ofFraction negative (n * tenTo e.toNat) 1
  else ofFraction negative n (tenTo (-e).toNat)

end Binary64

end SorobanDeploy
