import SorobanDeploy.Failure.Arguments
import SorobanDeploy.Rpc.Url.Parts

/-!
# The second look at an address

Before an address is used it is read once more, by rules of its own. Brackets have to stand around a
whole host, which has to be a numeric address; no character may look like one that ends the
authority; and a user with a password has to be text of octets.
-/

namespace SorobanDeploy.Rpc.Url

open Text

/-- The authority of an address in this reading: blanks and controls before the address do not
count, nor do tabulators and line ends inside. -/
def authority (url : List Char) : List Char :=
  let s := (url.dropWhile (·.toNat ≤ 0x20)).filter fun c => c ≠ '\t' && c ≠ '\r' && c ≠ '\n'
  match (splitScheme s).2 with
  | '/' :: '/' :: rest => rest.takeWhile fun c => c ≠ '/' && c ≠ '?' && c ≠ '#'
  | _ => []

/-! ## Brackets -/

/-- A value that cannot be used, and why. -/
def unusable (message : String) : Failure := .plain .badValue message

/-- The failure of brackets that stand elsewhere than around a host. -/
def brokenBrackets : Failure := unusable "Invalid IPv6 URL"

/-- Whether a text is an address of a version to come: its version, a point, and anything. -/
def isFutureAddress (s : List Char) : Bool :=
  let version := (s.drop 1).takeWhile isHex
  match s.drop (1 + version.length) with
  | '.' :: _ :: _ => version ≠ []
  | _ => false

/-- Whether a text is an address of the sixth version, perhaps with a zone after a percent sign. -/
def isScopedAddress (s : List Char) : Bool :=
  let zone := s.dropWhile (· ≠ '%')
  Address.isAddress6 Address.isStrictQuad (s.takeWhile (· ≠ '%'))
    && (zone = [] || (1 < zone.length && !(zone.drop 1).contains '%'))

/-- The check of what stands in brackets. -/
def checkBracketed (host : List Char) : Except Failure Unit :=
  if host.head? = some 'v' then
    if isFutureAddress host then .ok () else .error (unusable "IPvFuture address is invalid")
  else if Address.isStrictQuad host then
    .error (unusable "An IPv4 address cannot be in brackets")
  else if isScopedAddress host then .ok ()
  else
    .error (unusable (Text.quoted (String.ofList host)
      ++ " does not appear to be an IPv4 or IPv6 address"))

/-- The check of an authority with brackets. The host stands behind the last sign `@`, whether the
brackets do or not. -/
def checkBrackets (netloc : List Char) : Except Failure Unit :=
  let host := (splitUser netloc).2
  if host.contains '[' then
    let inner := host.drop 1
    let behind := (inner.dropWhile (· ≠ ']')).drop 1
    if host.head? ≠ some '[' ∨ (behind ≠ [] ∧ behind.head? ≠ some ':') then .error brokenBrackets
    else checkBracketed (inner.takeWhile (· ≠ ']'))
  else checkBracketed (host.takeWhile (· ≠ ':'))

/-! ## Characters that look like marks -/

/-- The characters that stand for a slash, a question mark, a number sign, a sign `@` or a colon. -/
def lookalikes : List Nat := [
  0x2047, 0x2048, 0x2049, 0x2100, 0x2101, 0x2105, 0x2106, 0x2A74, 0xFE13, 0xFE16, 0xFE55, 0xFE56,
  0xFE5F, 0xFE6B, 0xFF03, 0xFF0F, 0xFF1A, 0xFF1F, 0xFF20]

/-- The check of an authority. -/
def checkAuthority (netloc : List Char) : Except Failure Unit := do
  if netloc.contains '[' ≠ netloc.contains ']' then throw brokenBrackets
  if netloc.contains '[' then checkBrackets netloc
  if netloc.any fun c => lookalikes.contains c.toNat then
    throw (unusable ("netloc '" ++ String.ofList netloc
      ++ "' contains invalid characters under NFKC normalization"))

/-! ## Users -/

/-- The user and the password of an authority, if it has both and not both are empty. -/
def credentials? (netloc : List Char) : Option (List Char × List Char) :=
  (splitUser netloc).1.bind fun user =>
    match user.dropWhile (· ≠ ':') with
    | [] => none
    | _ :: password =>
      let name := unescape (user.takeWhile (· ≠ ':'))
      let password := unescape password
      if name = [] ∧ password = [] then none else some (name, password)

/-- The check of a text that has to be made of octets, one for each character. -/
def checkOctets (s : List Char) : Except Failure Unit :=
  let isOctet (c : Char) : Bool := c.toNat < 0x100
  let before := s.takeWhile isOctet
  match (s.dropWhile isOctet).takeWhile (!isOctet ·) with
  | [] => .ok ()
  | foreign =>
    let place := Failure.placeText (String.ofList s) before.length (before.length + foreign.length)
    .error (.plain .unencodable
      ("'latin-1' codec can't encode " ++ place ++ ": ordinal not in range(256)"))

/-- The check of the user of an authority. -/
def checkUser (netloc : List Char) : Except Failure Unit :=
  match credentials? netloc with
  | none => .ok ()
  | some (name, password) => do
    checkOctets name
    checkOctets password

/-- The second look at an address. -/
def check (url : String) : Except Failure Unit := do
  let netloc := authority url.toList
  checkAuthority netloc
  checkUser netloc

end SorobanDeploy.Rpc.Url
