import SorobanDeploy.Text.Hex
import SorobanDeploy.Text.Split

/-!
# Numeric addresses

An address of the sixth version is eight groups of hexadecimal digits between colons, or fewer with
one gap; the last two groups may be written as an address of the fourth version. Two readings
differ in what they take for an address of the fourth version: four numbers of at most three digits,
or four octets without leading zeros. Every strict address is a loose one (`isLooseQuad_of_strict`).
-/

namespace SorobanDeploy.Rpc.Address

open Text

/-- Whether a text is a number of at most three digits. -/
def isShortNumber (n : List Char) : Bool :=
  1 ≤ n.length && n.length ≤ 3 && n.all Char.isDigit

/-- Whether a text is the number of an octet, without leading zeros. -/
def isOctet (n : List Char) : Bool :=
  isShortNumber n && (n = ['0'] || n.head? ≠ some '0')
    && n.foldl (fun v c => v * 10 + (c.toNat - '0'.toNat)) 0 ≤ 255

/-- Whether a text is four parts of a kind between points. -/
def isQuadOf (isPart : List Char → Bool) (s : List Char) : Bool :=
  let parts := splitOn '.' s
  parts.length = 4 && parts.all isPart

/-- Four numbers between points. -/
def isLooseQuad : List Char → Bool := isQuadOf isShortNumber

/-- Four octets between points: an address of the fourth version. -/
def isStrictQuad : List Char → Bool := isQuadOf isOctet

/-- Four octets are four numbers. -/
theorem isLooseQuad_of_strict (s : List Char) (h : isStrictQuad s = true) :
    isLooseQuad s = true := by
  simp only [isStrictQuad, isLooseQuad, isQuadOf, Bool.and_eq_true, List.all_eq_true] at h ⊢
  refine ⟨h.1, fun n hn => ?_⟩
  have := h.2 n hn
  simp only [isOctet, Bool.and_eq_true] at this
  exact this.1.1

/-- Whether a text is a group of hexadecimal digits. -/
def isGroup (p : List Char) : Bool := 1 ≤ p.length && p.length ≤ 4 && p.all isHex

/-- How many groups parts are, where the last one may be an address of the fourth version, which
counts for two. -/
def groupCount (isQuad : List Char → Bool) : List (List Char) → Option Nat
  | [] => some 0
  | [p] => if isGroup p then some 1 else if isQuad p then some 2 else none
  | p :: rest => if isGroup p then (groupCount isQuad rest).map (· + 1) else none

/-- The first place where a text has two colons: what stands before and after it. -/
def splitDouble : List Char → Option (List Char × List Char)
  | ':' :: ':' :: rest => some ([], rest)
  | c :: rest => (splitDouble rest).map fun (a, b) => (c :: a, b)
  | [] => none

/-- The groups of a text between colons; an empty text has none. -/
def groups (s : List Char) : List (List Char) :=
  if s = [] then [] else splitOn ':' s

/-- Whether a text is an address of the sixth version: eight groups, or fewer with one gap, before
which all groups are hexadecimal. -/
def isAddress6 (isQuad : List Char → Bool) (s : List Char) : Bool :=
  match splitDouble s with
  | none => groupCount isQuad (groups s) = some 8
  | some (before, behind) =>
    match groupCount (fun _ => false) (groups before), groupCount isQuad (groups behind) with
    | some m, some n => m + n ≤ 7
    | _, _ => false

end SorobanDeploy.Rpc.Address
