import SorobanDeploy.Host.Files
import SorobanDeploy.Json.Reader
import SorobanDeploy.Rpc.BodyText
import SorobanDeploy.Rpc.Url

/-!
# Asking a server which network it serves

One request is sent, and the answer is read step by step: its status, its text as JSON, an error
that the server reports, and the members of its result. A server that serves another network than
the profile says is a matter of configuration.
-/

namespace SorobanDeploy.Rpc

variable {σ : Type}

/-- The logger of the check. -/
def logger : String := "inheritx_deploy.rpc"

/-- What a server says about its network. -/
structure NetworkInfo where
  passphrase : Json
  protocolVersion : Json
  friendbotUrl : Json
  deriving Repr

/-- The question to the server. -/
def question : Json :=
  .object [("jsonrpc", .text "2.0"), ("id", .whole 1), ("method", .text "getNetwork")]

/-- How the question is sent. -/
def method : String := "POST"

/-- The content type of the question. -/
def questionType : String := "application/json"

/-- An answer of a server: status, content type and body. -/
structure Answer where
  status : Nat
  contentType : Option String
  body : Text.Octets
  deriving Repr

/-- What carries requests: each one is answered, or fails. Redirects are followed by the transport
itself, so that its answer is that of the last server that it comes to. -/
abbrev Transport (σ : Type) := Request → σ → Except Failure Answer × σ

/-- How long an answer is waited for, in seconds. -/
def defaultTimeout : Json := .whole 30

/-- The statuses that come without a body. -/
def isBodiless (status : Nat) : Bool :=
  (100 ≤ status && status < 200) || status = 204 || status = 304

/-- The failure of an answer that has a body although its status forbids one. -/
def unexpectedBody (length : Nat) : Failure :=
  .plain .brokenBody
    ("('Response may not contain content.', IncompleteRead(" ++ toString length ++ " bytes read, -"
      ++ toString length ++ " more expected))")

/-- The answer as it is received. -/
def Answer.received (a : Answer) : Except Failure Answer :=
  if isBodiless a.status && !a.body.isEmpty then .error (unexpectedBody a.body.length) else .ok a

/-- Why the text of a body is no document. -/
def flawFailure : Json.Flaw → Failure
  | .malformed => .plain .badJson "Expecting value"
  | .tooManyDigits =>
    .plain .badValue "Exceeds the limit (4300 digits) for integer string conversion"
  | .listTooDeep => .plain .tooDeep
      "maximum recursion depth exceeded while decoding a JSON array from a unicode string"
  | .objectTooDeep => .plain .tooDeep
      "maximum recursion depth exceeded while decoding a JSON object from a unicode string"

/-- The failure of asking a value for members that has none. -/
def noMembers (v : Json) : Failure :=
  .plain .badKind
    (match v with
      | .list _ => "list indices must be integers or slices, not str"
      | .text _ => "string indices must be integers, not 'str'"
      | v => "'" ++ v.kindName ++ "' object is not subscriptable")

/-- The member of a value, or why it has none. -/
def memberOf (name : String) : Json → Except Failure Json
  | .object members =>
    match Pairs.get? name members with
    | some v => .ok v
    | none => .error (.plain .missingKey (Text.quoted name))
  | v => .error (noMembers v)

/-- Whether a name stands in a value: as a member of an object, an item of a list, or a part of a
text. Other values hold nothing to look into. -/
def mentions (name : String) : Json → Except Failure Bool
  | .object members => .ok (Pairs.get? name members).isSome
  | .list items => .ok (items.any fun v => match v with | .text s => s = name | _ => false)
  | .text s => .ok (Text.holds name.toList s.toList)
  | v => .error (.plain .badKind ("argument of type '" ++ v.kindName ++ "' is not iterable"))

/-- The members of a result that tell of the network. -/
def infoOf (answer : Json) : Except Failure NetworkInfo := do
  let data ← memberOf "result" answer
  let passphrase ← memberOf "passphrase" data
  pure {
    passphrase := passphrase
    protocolVersion := (data.member? "protocolVersion").getD .null
    friendbotUrl := (data.member? "friendbotUrl").getD .null }

/-- What the document of an answer tells of the network. -/
def readDocument (url : String) (answer : Json) : Except Failure NetworkInfo := do
  if ← mentions "error" answer then
    let error ← memberOf "error" answer
    throw (Problem.reportedError url error.shown).failure
  else
    match infoOf answer with
    | .ok info => pure info
    | .error e => throw ((Problem.unexpectedAnswer url answer.shown).because e)

/-- The document in the body of an answer. -/
def documentOf (a : Answer) : Except Failure Json := do
  let text ← bodyText a.contentType a.body
  (Json.read text).mapError flawFailure

/-- A body with a bad value in it is not JSON; other failures of reading it stay as they are. -/
def notJson (url : String) (e : Failure) : Failure :=
  if e.isA .badValue then (Problem.answerNotJson url).because e else e

/-- What an answer tells of the network. -/
def readAnswer (url : String) (a : Answer) : Except Failure NetworkInfo :=
  if a.status ≠ 200 then .error (Problem.badAnswerStatus url a.status).failure
  else (documentOf a).mapError (notJson url) >>= readDocument url

/-- A failure of the transport is a failure to reach the server; others stay as they are. -/
def unreached (url : String) (e : Failure) : Failure :=
  if e.isA .transport then (Problem.unreachable url e.message).because e else e

/-- Asks the server at an address which network it serves. -/
def getNetworkInfo (transport : Transport σ) (url : String) (timeout : Json) (h : Host σ) :
    Reply σ NetworkInfo :=
  match Url.prepare url with
  | .error e => ⟨.error (unreached url e), h, []⟩
  | .ok ready =>
    let request : Request := ⟨ready, timeout⟩
    let (delivery, outside) := transport request h.outside
    let answer :=
      match delivery.bind Answer.received with
      | .ok a => readAnswer url a
      | .error e => .error (unreached url e)
    ⟨answer, { h with outside := outside }, [.request request]⟩

/-- Whether the server serves the network of a profile. -/
def matchesProfile (profile : NetworkProfile) (info : NetworkInfo) : Bool :=
  match info.passphrase with
  | .text s => s = profile.passphrase
  | _ => false

/-- Checks that the server of a profile serves its network. -/
def verifyNetwork (transport : Transport σ) : Party σ NetworkProfile NetworkInfo :=
  fun profile h =>
    let reply := getNetworkInfo transport profile.rpcUrl defaultTimeout h
    match reply.answer with
    | .error e => { reply with answer := .error e }
    | .ok info =>
      if matchesProfile profile info then
        let text := "RPC endpoint OK (" ++ profile.name.text ++ ", protocol "
          ++ info.protocolVersion.shown ++ ")"
        { reply with notes := reply.notes ++ [.record ⟨Log.info, logger, text⟩] }
      else
        let problem := Problem.wrongNetwork profile.rpcUrl info.passphrase.shown profile.passphrase
          profile.name.text
        { reply with answer := .error problem.failure }

end SorobanDeploy.Rpc
