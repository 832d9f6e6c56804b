import SorobanDeploy.Rpc.HostName
import SorobanDeploy.Rpc.Url.Check
import SorobanDeploy.Text.Blank

/-!
# Addresses of servers

An address is taken apart, each part is cleaned, and the parts are put together again. The scheme
and the host are in lower case, an empty path is a slash, and what may not stand in a part is
written by its octets. An address without a scheme or without a host is refused, and so is one that
nothing serves.
-/

namespace SorobanDeploy.Rpc.Url

open Text

/-! ## Refusals -/

/-- An address that has no scheme. -/
def missingScheme (url : String) : Failure :=
  .plain .missingScheme
    ("Invalid URL " ++ Text.quoted url ++ ": No scheme supplied. Perhaps you meant https://" ++ url
      ++ "?")

/-- An address that has no host. -/
def missingHost (url : String) : Failure :=
  .plain .badUrl ("Invalid URL " ++ Text.quoted url ++ ": No host supplied")

/-- An address that cannot be taken apart. -/
def unparsed (what : String) : Failure := .plain .badUrl ("Failed to parse: " ++ what)

/-- A host and port that are none. -/
def badAuthority (netloc : List Char) : Failure :=
  unparsed (Text.quoted (String.ofList netloc) ++ " is not a valid host or port")

/-- A host with something in it that no host may hold. -/
def badContent (netloc : List Char) (kind : String) (found : List Char) : Failure :=
  unparsed ("Host " ++ Text.quoted (String.ofList netloc) ++ " contains invalid " ++ kind ++ " "
    ++ Text.quoted (String.ofList found))

/-- A host with a label that cannot be sent. -/
def badLabel (label : List Char) : Failure :=
  unparsed ("Name '" ++ String.ofList label ++ "' is not a valid IDNA label")

/-- A host that is no host name. -/
def badHost : Failure := .plain .badUrl "URL has an invalid label."

/-- An address that nothing serves. -/
def unserved (url : String) : Failure :=
  .plain .badScheme ("No connection adapters were found for " ++ Text.quoted url)

/-! ## Hosts -/

/-- The host and the port of an authority without its user, or why they are none. -/
def hostAndPort (netloc : List Char) : Except Failure (List Char × Option Nat) :=
  match foreignChar? netloc, writtenControl? netloc with
  | some c, _ => .error (badContent netloc "character" [c])
  | none, some written =>
    .error (badContent netloc "percent-encoded control character" written)
  | none, none =>
    match splitHostPort netloc with
    | some found => .ok found
    | none => .error (badAuthority netloc)

/-- The host of a served address as it is sent. -/
def servedHost (host : List Char) : Except Failure (List Char) :=
  if isBracketed host then .ok (lowerBracketed host)
  else (HostName.served (plainEscapes host)).mapError badLabel

/-- The host of any address as it is sent: a name beyond ASCII in its form, and any other one unless
it begins with an asterisk or a point. -/
def anyHost (host : List Char) : Except Failure (List Char) :=
  if HostName.isAscii host then
    if host.head? = some '*' ∨ host.head? = some '.' then .error badHost else .ok host
  else
    match HostName.sent? host with
    | some sent => .ok sent
    | none => .error badHost

/-! ## Addresses -/

/-- The greatest number of a port. -/
def maxPort : Nat := 65535

/-- An address with its parts cleaned, or why there is none. -/
def assemble (url : String) : Except Failure String := do
  let text := url.toList
  -- A text that begins with neither a scheme nor a slash begins with a host.
  let p := split (if isRooted text then text else '/' :: '/' :: text)
  let scheme := p.scheme.map (·.map Char.toLower)
  -- Only the parts of addresses that are served are cleaned.
  let plain := scheme.all fun s => s = "http".toList ∨ s = "https".toList
  let clean (allowed : Char → Bool) (s : List Char) := if plain then clean allowed s else s
  let (user, netloc) := splitUser (p.authority.getD [])
  let (host, port) ← hostAndPort netloc
  if port.any (maxPort < ·) then throw (unparsed url)
  let host ← if plain then servedHost host else pure host
  match scheme with
  | none => throw (missingScheme url)
  | some scheme =>
    if host = [] then throw (missingHost url)
    let host ← anyHost host
    let user := match user with
      | none | some [] => []
      | some u => clean isUserChar u ++ ['@']
    let port := match port with
      | none | some 0 => []
      | some n => ':' :: Nat.toDigits 10 n
    let path := if p.path = [] then ['/'] else
      if plain then clean isPathChar (removePoints p.path) else p.path
    let path := if path = [] then ['/'] else path
    pure (String.ofList (requote (join scheme (user ++ host ++ port) path
      (p.query.map (clean isQueryChar)) (p.fragment.map (clean isQueryChar)))))

/-- Whether an address begins with a word, in any case. -/
def beginsWith (word : String) (url : String) : Bool :=
  word.toList.isPrefixOf (url.toList.map Char.toLower)

/-- The address that a request is sent to, or why none is sent. One with another scheme is not taken
apart. -/
def prepare (url : String) : Except Failure String := do
  let url := String.ofList (url.toList.dropWhile isBlank)
  let ready ← if url.toList.contains ':' && !beginsWith "http" url then pure url else assemble url
  check ready
  if beginsWith "https://" ready || beginsWith "http://" ready then pure ready
  else throw (unserved ready)

end SorobanDeploy.Rpc.Url
