import SorobanDeploy.Rpc.Address
import SorobanDeploy.Rpc.Url.Escape

/-!
# The parts of an address

An address is a scheme, an authority after two slashes, a path, a query and a fragment. The
authority is a user, a host and a port. A host is a name, or a numeric address in brackets.
-/

namespace SorobanDeploy.Rpc.Url

open Text

/-- The parts of an address. -/
structure Parts where
  scheme : Option (List Char)
  authority : Option (List Char)
  path : List Char
  query : Option (List Char)
  fragment : Option (List Char)
  deriving DecidableEq, Repr

/-- Whether a character may stand in a scheme after its first letter. -/
def isSchemeChar (c : Char) : Bool := c.isAlphanum || c = '+' || c = '-' || c = '.'

/-- The scheme at the beginning of an address, and what follows its colon. -/
def splitScheme (s : List Char) : Option (List Char) × List Char :=
  match s.takeWhile isSchemeChar, s.dropWhile isSchemeChar with
  | c :: cs, ':' :: rest => if c.isAlpha then (some (c :: cs), rest) else (none, s)
  | _, _ => (none, s)

/-- The authority after two slashes, and what follows it. -/
def splitAuthority : List Char → Option (List Char) × List Char
  | '/' :: '/' :: rest =>
    let stops (c : Char) : Bool := c = '\\' || c = '/' || c = '?' || c = '#'
    (some (rest.takeWhile (!stops ·)), rest.dropWhile (!stops ·))
  | s => (none, s)

/-- What follows a mark, if the mark is there. -/
def after (mark : Char) : List Char → Option (List Char)
  | c :: rest => if c = mark then some rest else none
  | [] => none

/-- An address in its parts. -/
def split (s : List Char) : Parts :=
  let (scheme, s) := splitScheme s
  let (authority, s) := splitAuthority s
  let path := s.takeWhile fun c => c ≠ '?' && c ≠ '#'
  let s := s.dropWhile fun c => c ≠ '?' && c ≠ '#'
  let query := (after '?' s).map (·.takeWhile (· ≠ '#'))
  let fragment := after '#' (s.dropWhile (· ≠ '#'))
  ⟨scheme, authority, path, query, fragment⟩

/-- Whether an address begins with a scheme or a slash. -/
def isRooted (s : List Char) : Bool :=
  match s.takeWhile fun c => c.isAlphanum || c = '+' || c = '-' with
  | [] => s.head? = some '/'
  | c :: cs => c.isAlpha && (s.drop (cs.length + 1)).head? = some ':'

/-- The parts of an address put together. -/
def join (scheme netloc path : List Char) (query fragment : Option (List Char)) : List Char :=
  let path := if path.head? = some '/' ∨ path = [] then path else '/' :: path
  let tail (mark : Char) (part : Option (List Char)) : List Char :=
    match part with
    | none | some [] => []
    | some cs => mark :: cs
  scheme ++ "://".toList ++ netloc ++ path ++ tail '?' query ++ tail '#' fragment

/-! ## Hosts -/

/-- Whether a text is a host name: no brackets, and a percent sign only before two digits. -/
def isName : List Char → Bool
  | [] => true
  | '%' :: a :: b :: rest => isHex a && isHex b && isName rest
  | c :: rest => !("[]%:/?#".toList.contains c) && isName rest

/-- Whether a text is the name of a zone: characters that stand for themselves, an exclamation mark,
or written octets. -/
def isZone : List Char → Bool
  | [] => true
  | '%' :: a :: b :: rest => isHex a && isHex b && isZone rest
  | c :: rest => (isUnreserved c || c = '!') && isZone rest

/-- Whether a text is a numeric address in brackets, perhaps with a zone after a percent sign. -/
def isBracketed (s : List Char) : Bool :=
  match s with
  | '[' :: inner =>
    let inside := inner.dropLast
    let address := inside.takeWhile (· ≠ '%')
    let zone := (inside.dropWhile (· ≠ '%')).drop 1
    inner.getLast? = some ']' && Address.isAddress6 Address.isLooseQuad address
      && (inside = address || (zone ≠ [] && isZone zone))
  | _ => false

/-- Whether a text is a host. -/
def isHost (s : List Char) : Bool := isName s || isBracketed s

/-- The number of a port: at most five digits after leading zeros. -/
def portNumber (digits : List Char) : Option Nat :=
  let short := digits.dropWhile (· = '0')
  if digits.all Char.isDigit && short.length ≤ 5 then
    some (short.foldl (fun n c => n * 10 + (c.toNat - '0'.toNat)) 0)
  else none

/-- A host and a port, where the port is missing or empty, or a number. -/
def splitHostPort (s : List Char) : Option (List Char × Option Nat) :=
  if isHost s then some (s, none)
  else
    let digits := (s.reverse.takeWhile Char.isDigit).reverse
    match (s.reverse.drop digits.length) with
    | ':' :: host =>
      if isHost host.reverse then
        if digits = [] then some (host.reverse, none)
        else (portNumber digits).map fun n => (host.reverse, some n)
      else none
    | _ => none

/-- What stands before the last sign `@` of an authority, and what stands after it. -/
def splitUser (s : List Char) : Option (List Char) × List Char :=
  if s.contains '@' then
    let host := (s.reverse.takeWhile (· ≠ '@')).reverse
    (some (s.take (s.length - host.length - 1)), host)
  else (none, s)

/-- The first character of a host that no host may hold: a control character or a blank. -/
def foreignChar? (host : List Char) : Option Char :=
  host.find? fun c => c.toNat ≤ 0x20 || c.toNat = 0x7F

/-- The first control character of a host that is written by its number. -/
def writtenControl? : List Char → Option (List Char)
  | [] => none
  | c :: rest =>
    let found := match c, rest with
      | '%', a :: b :: _ =>
        (hexPair? a b).bind fun n => if n < 0x20 ∨ n = 0x7F then some ['%', a, b] else none
      | _, _ => none
    found.or (writtenControl? rest)

/-- A numeric address in brackets in lower case; the mark before a zone is one percent sign. -/
def lowerBracketed (s : List Char) : List Char :=
  let address := s.takeWhile (· ≠ '%')
  match s.dropWhile (· ≠ '%') with
  | [] => s.map Char.toLower
  | zone =>
    let zone := zone.dropLast
    let name := if "%25".toList.isPrefixOf zone ∧ zone ≠ "%25".toList then zone.drop 3
      else zone.drop 1
    address.map Char.toLower ++ '%' :: clean isUnreserved name ++ [']']

/-! ## Paths -/

/-- A path without single and double points. -/
def removePoints (path : List Char) : List Char :=
  let kept := (splitOn '/' path).foldl (fun done part =>
    if part = ['.'] then done
    else if part = ['.', '.'] then done.dropLast
    else done ++ [part]) []
  let kept :=
    if path.head? = some '/' ∧ (kept = [] ∨ kept.head? ≠ some []) then [] :: kept else kept
  let endsIn (tail : List Char) : Bool := tail.isSuffixOf path
  let kept := if endsIn ['/', '.'] || endsIn ['/', '.', '.'] then kept ++ [[]] else kept
  List.intercalate ['/'] kept

end SorobanDeploy.Rpc.Url
