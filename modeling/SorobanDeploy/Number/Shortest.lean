import SorobanDeploy.Number.Binary64

/-!
# The shortest decimal that reads back

Among the decimals that read back as a given double, the one with the fewest digits, and of those
the nearest to it. The reals that read back are an interval around the double; one, two, … seventeen
digits are tried, and for each the two points of that decimal grid around the double.
-/

namespace SorobanDeploy.Binary64

/-- A decimal `digits · 10 ^ exponent`. -/
structure Decimal where
  digits : Nat
  exponent : Int
  deriving DecidableEq, Repr

/-- The reals that read back as `m · 2 ^ q`, in units of `2 ^ (q - 2)`: the ends, and whether they
belong to it. Below a power of two the next double is half as far away. -/
structure Interval where
  low : Nat
  high : Nat
  closed : Bool
  deriving DecidableEq, Repr

/-- The interval of a positive double. -/
def interval (m : Nat) (q : Int) : Interval :=
  let near := m = twoTo (precision - 1) ∧ leastExponent < q
  { low := 4 * m - (if near then 1 else 2), high := 4 * m + 2, closed := m % 2 = 0 }

/-- The unit `2 ^ (q - 2)` over `10 ^ p`, as a fraction. -/
def unitOver (q p : Int) : Nat × Nat :=
  let two := q - 2
  let num := (if 0 ≤ two then twoTo two.toNat else 1) * (if 0 ≤ p then 1 else tenTo (-p).toNat)
  let den := (if 0 ≤ two then 1 else twoTo (-two).toNat) * (if 0 ≤ p then tenTo p.toNat else 1)
  (num, den)

/-- The point of the grid `10 ^ p` that stands for `m · 2 ^ q`, if one reads back: the nearer of
its two neighbours, and the even one if both are equally near. -/
def onGrid? (m : Nat) (q p : Int) : Option Decimal :=
  let i := interval m q
  let (num, den) := unitOver q p
  let value := 4 * m * num
  let holds (d : Nat) : Bool :=
    if i.closed then i.low * num ≤ d * den && d * den ≤ i.high * num
    else i.low * num < d * den && d * den < i.high * num
  -- The nearer neighbour is tried first; it is one of the two below.
  let below := value / den
  let nearest := roundDiv value den
  if holds nearest then some ⟨nearest, p⟩
  else if holds below then some ⟨below, p⟩
  else if holds (below + 1) then some ⟨below + 1, p⟩
  else none

/-- The number of digits before the decimal point of `m · 2 ^ q`; zero or negative below one. -/
def magnitude (m : Nat) (q : Int) : Int :=
  if 0 ≤ q then (Nat.toDigits 10 (m * twoTo q.toNat)).length
  else
    let den := twoTo (-q).toNat
    if den ≤ m then (Nat.toDigits 10 (m / den)).length
    else
      let lead := (Nat.toDigits 10 (den / m)).length
      if den ≤ m * tenTo (lead - 1) then -(lead : Int) + 2 else -(lead : Int) + 1

/-- The shortest decimal of a positive double. -/
def shortest (m : Nat) (q : Int) : Decimal :=
  let top := magnitude m q
  let tries := (List.range 17).filterMap fun (n : Nat) => onGrid? m q (top - n - 1)
  tries.headD ⟨m, q⟩

/-- Where positional notation ends: a number is written positionally if its point stands after
the first of these and not after the second, counted from its first digit. -/
def positional : Int × Int := (-4, 16)

/-- The digits of a decimal without the zeros at its end. -/
def significant (d : Decimal) : List Char :=
  ((Nat.toDigits 10 d.digits).reverse.dropWhile (· = '0')).reverse

/-- An exponent with its sign and at least two digits. -/
def exponentText (e : Int) : List Char :=
  let digits := Nat.toDigits 10 e.natAbs
  (if e < 0 then '-' else '+') :: List.replicate (2 - digits.length) '0' ++ digits

/-- Digits with the point after the first `point` of them. -/
def placed (digits : List Char) (point : Int) : List Char :=
  if positional.1 < point ∧ point ≤ positional.2 then
    if point ≤ 0 then '0' :: '.' :: List.replicate (-point).toNat '0' ++ digits
    else
      let n := point.toNat
      if digits.length ≤ n then digits ++ List.replicate (n - digits.length) '0' ++ ['.', '0']
      else digits.take n ++ '.' :: digits.drop n
  else
    let tail := digits.drop 1
    digits.take 1 ++ (if tail.isEmpty then [] else '.' :: tail) ++ 'e' :: exponentText (point - 1)

/-- The text of a double: the shortest decimal that reads back, in positional notation for
ordinary magnitudes and with an exponent otherwise. -/
def text : Binary64 → String
  | .nan => "nan"
  | .infinite negative => if negative then "-inf" else "inf"
  | .finite negative m q =>
    let sign := if negative then ['-'] else []
    if m = 0 then String.ofList (sign ++ ['0', '.', '0'])
    else
      let d := shortest m q
      let all := Nat.toDigits 10 d.digits
      String.ofList (sign ++ placed (significant d) (all.length + d.exponent))

end SorobanDeploy.Binary64
