/-!
# UTF-8

Text and octets. `encode` writes a text; `decode` reads octets strictly and says where and why it
stops; `parts` goes on behind each ill-formed part. A part is ill-formed as soon as no text begins
with it, so both readers stop at the same octets.
-/

namespace SorobanDeploy.Text

/-- A sequence of octets, as files hold them and programs write them. -/
abbrev Octets := List UInt8

namespace Utf8

/-- The octets of one character. -/
def encodeChar (c : Char) : Octets :=
  let n := c.toNat
  if n < 0x80 then [.ofNat n]
  else if n < 0x800 then [.ofNat (0xC0 + n / 0x40), .ofNat (0x80 + n % 0x40)]
  else if n < 0x10000 then
    [.ofNat (0xE0 + n / 0x1000), .ofNat (0x80 + n / 0x40 % 0x40), .ofNat (0x80 + n % 0x40)]
  else
    [.ofNat (0xF0 + n / 0x40000), .ofNat (0x80 + n / 0x1000 % 0x40),
     .ofNat (0x80 + n / 0x40 % 0x40), .ofNat (0x80 + n % 0x40)]

/-- The octets of a text. -/
def encode (cs : List Char) : Octets :=
  cs.flatMap encodeChar

/-- The octets of a string. -/
def ofString (s : String) : Octets :=
  encode s.toList

/-- Why octets are no text. -/
inductive Flaw where
  /-- The octet begins no character. -/
  | start
  /-- The octet after the part does not continue it. -/
  | continuation
  /-- The octets end inside a character. -/
  | truncated
  deriving DecidableEq, Repr

/-- An ill-formed part: where it begins, how many octets it has, and what is wrong. -/
structure Malformed where
  position : Nat
  first : UInt8
  length : Nat
  flaw : Flaw
  deriving DecidableEq, Repr

/-- A character of which the first octets are read: how many, the value so far, how many are
missing, and the bounds of the next one. -/
structure Pending where
  first : UInt8
  taken : Nat
  value : Nat
  missing : Nat
  low : Nat
  high : Nat
  deriving DecidableEq, Repr

/-- What an octet between two characters can be. -/
inductive Lead where
  | whole (c : Char)
  | opens (p : Pending)
  | refused
  deriving DecidableEq, Repr

/-- The role of an octet at the beginning of a character. The bounds of the second octet keep out
overlong forms, surrogates and values beyond the last character. -/
def lead (b : UInt8) : Lead :=
  let n := b.toNat
  if n < 0x80 then .whole (Char.ofNat n)
  else if n < 0xC2 then .refused
  else if n < 0xE0 then .opens ⟨b, 1, n - 0xC0, 1, 0x80, 0xBF⟩
  else if n < 0xF0 then
    .opens ⟨b, 1, n - 0xE0, 2, if n = 0xE0 then 0xA0 else 0x80, if n = 0xED then 0x9F else 0xBF⟩
  else if n < 0xF5 then
    .opens ⟨b, 1, n - 0xF0, 3, if n = 0xF0 then 0x90 else 0x80, if n = 0xF4 then 0x8F else 0xBF⟩
  else .refused

/-- Whether an octet continues the character. -/
def Pending.admits (p : Pending) (b : UInt8) : Bool :=
  p.low ≤ b.toNat && b.toNat ≤ p.high

/-- The character with one more octet read. -/
def Pending.push (p : Pending) (b : UInt8) : Pending :=
  ⟨p.first, p.taken + 1, p.value * 0x40 + (b.toNat - 0x80), p.missing - 1, 0x80, 0xBF⟩

/-- Strict reading from an octet position on, with a character perhaps begun. -/
def decodeFrom : Nat → Option Pending → Octets → Except Malformed (List Char)
  | _, none, [] => .ok []
  | pos, some p, [] => .error ⟨pos - p.taken, p.first, p.taken, .truncated⟩
  | pos, none, b :: bs =>
    match lead b with
    | .whole c => (decodeFrom (pos + 1) none bs).map (c :: ·)
    | .opens p => decodeFrom (pos + 1) (some p) bs
    | .refused => .error ⟨pos, b, 1, .start⟩
  | pos, some p, b :: bs =>
    if p.admits b then
      let q := p.push b
      if q.missing = 0 then (decodeFrom (pos + 1) none bs).map (Char.ofNat q.value :: ·)
      else decodeFrom (pos + 1) (some q) bs
    else .error ⟨pos - p.taken, p.first, p.taken, .continuation⟩

/-- Strict reading: the text of the octets, or the first ill-formed part. -/
def decode (bs : Octets) : Except Malformed (List Char) :=
  decodeFrom 0 none bs

/-- The characters of octets, and nothing for each ill-formed part, with a character perhaps begun.
An octet that does not continue the character is read again as the beginning of the next one. -/
def partsFrom : Option Pending → Octets → List (Option Char)
  | none, [] => []
  | some _, [] => [none]
  | state, b :: bs =>
    let fresh : List (Option Char) :=
      match lead b with
      | .whole c => some c :: partsFrom none bs
      | .opens p => partsFrom (some p) bs
      | .refused => none :: partsFrom none bs
    match state with
    | none => fresh
    | some p =>
      if p.admits b then
        let q := p.push b
        if q.missing = 0 then some (Char.ofNat q.value) :: partsFrom none bs
        else partsFrom (some q) bs
      else none :: fresh

/-- The characters of octets, and nothing for each ill-formed part. -/
def parts (bs : Octets) : List (Option Char) :=
  partsFrom none bs

/-- The reason in words. -/
def Flaw.text : Flaw → String
  | .start => "invalid start byte"
  | .continuation => "invalid continuation byte"
  | .truncated => "unexpected end of data"

/-- An octet in two hexadecimal digits. -/
def hexOctet (b : UInt8) : String :=
  let digit (n : Nat) : Char := (Nat.toDigits 16 n).headD '0'
  String.ofList [digit (b.toNat / 16), digit (b.toNat % 16)]

/-- What is wrong with the octets, in one sentence. -/
def Malformed.message (m : Malformed) : String :=
  let place :=
    if m.length = 1 then s!"byte 0x{hexOctet m.first} in position {m.position}"
    else s!"bytes in position {m.position}-{m.position + m.length - 1}"
  "'utf-8' codec can't decode " ++ place ++ ": " ++ m.flaw.text

end Utf8

end SorobanDeploy.Text
