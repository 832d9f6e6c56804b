import SorobanDeploy.Failure
import SorobanDeploy.Text.Blank
import SorobanDeploy.Text.Charset.Names

/-!
# The text of a body

The octets of an answer become text by the character set that its content type names. A content type
that names none still decides for some media types; otherwise the first octets of the body do. A
name that stands for no set means UTF-8, and an empty body is an empty text whatever the name.
-/

namespace SorobanDeploy.Rpc

open Text

/-! ## Content types -/

/-- The name and the value of a parameter. One without an equals sign has no value, and only around
one that has a value quotation marks are dropped. -/
def parameterOf (cs : List Char) : List Char × Option (List Char) :=
  let bare := trim fun c => c = '"' || c = '\'' || c = ' '
  let p := stripChars cs
  match p.dropWhile (· ≠ '=') with
  | [] => (p.map Char.toLower, none)
  | _ :: value => ((bare (p.takeWhile (· ≠ '='))).map Char.toLower, some (bare value))

/-- The value of a parameter of a content type. The last one of a name counts. -/
def parameter? (name : List Char) (contentType : List Char) : Option (List Char) :=
  (((((splitOn ';' contentType).drop 1).map parameterOf).filter (·.1 = name)).getLast?).bind (·.2)

/-- The name of the character set that a content type asks for. -/
def charsetName? (contentType : List Char) : Option (List Char) :=
  let media := stripChars ((splitOn ';' contentType).headD [])
  match parameter? "charset".toList contentType with
  | some name => some (trim (fun c => c = '\'' || c = '"') name)
  | none =>
    if holds "text".toList media then some "ISO-8859-1".toList
    else if holds "application/json".toList media then some "utf-8".toList
    else none

/-! ## Reading by a name -/

/-- The failure of a name with the character that ends names. -/
def nulInName : Failure := .plain .badValue "embedded null character"

/-- The failure of a name that no octets are read by. -/
def noReading (title : String) : Failure :=
  let reason := if title = "undefined" then "undefined encoding"
    else "Unsupported error handling replace"
  .of .badText ("decoding with '" ++ title ++ "' codec failed (UnicodeError: " ++ reason ++ ")")
    (some (.plain .badText reason)) .nothing

/-- The failure of an octet among gaps that is not ASCII. -/
def gapBeyondAscii (position : Nat) (b : UInt8) : Failure :=
  .plain .undecodable
    ("'ascii' codec can't decode byte 0x" ++ Utf8.hexOctet b ++ " in position "
      ++ toString position ++ ": ordinal not in range(128)")

/-- The text of octets in ASCII with gaps. Beyond ASCII, octets that stand for themselves give the
replacement character, and there are none among the gaps. -/
def readGaps (body : Octets) : Except Failure (List Char) :=
  let (plain, gaps) := Punycode.splitLast (body.map Charset.plainChar)
  match gaps.findIdx? (0x80 ≤ ·.toNat) with
  | some i => .error (gapBeyondAscii i (.ofNat ((gaps[i]?.map Char.toNat).getD 0)))
  | none =>
    .ok (Punycode.insertAll (plain.map fun c => if c.toNat < 0x80 then c else '\uFFFD') gaps).1

/-- The text of octets by the name of a character set. -/
def readAs (name : List Char) (body : Octets) : Except Failure (List Char) :=
  if body = [] then .ok []
  else if name.contains '\x00' then .error nulInName
  else
    match Charset.named? name with
    | none => .ok (Charset.utf8.lossy body)
    | some (.charset c) => .ok (c.lossy body)
    | some .gaps => readGaps body
    | some (.noReading title) => .error (noReading title)

/-! ## Reading without a name -/

/-- The character set of a body that JSON is expected in, by the mark at its beginning or else by
the zero octets among its first four. -/
def guess (bs : Octets) : Option Charset :=
  let sample := bs.take 4
  let zeros := sample.map (· == 0)
  if sample = [0xFF, 0xFE, 0, 0] ∨ sample = [0, 0, 0xFE, 0xFF] then some (.utf32 none)
  else if sample.take 3 = [0xEF, 0xBB, 0xBF] then some .utf8Marked
  else if sample.take 2 = [0xFF, 0xFE] ∨ sample.take 2 = [0xFE, 0xFF] then some (.utf16 none)
  else if zeros.all (! ·) then some .utf8
  else if zeros = [true, false, true, false] then some (.utf16 (some .big))
  else if zeros = [false, true, false, true] then some (.utf16 (some .little))
  else if zeros = [true, true, true, false] then some (.utf32 (some .big))
  else if zeros = [false, true, true, true] then some (.utf32 (some .little))
  else none

/-- The text of the body of an answer. A guess needs four octets, and is dropped if the body is not
well-formed under it. Then the transport has a library that detects the character set from the whole
body. That library is left out: the body is read as UTF-8, with the replacement character for what
is not well-formed. -/
def bodyText (contentType : Option String) (body : Octets) : Except Failure (List Char) :=
  let name := ((contentType.filter (! ·.isEmpty)).bind fun t => charsetName? t.toList).getD []
  let guessed :=
    if name = [] ∧ 3 < body.length then (guess body).bind fun c => c.strict body else none
  match guessed with
  | some cs => .ok cs
  | none => readAs name body

end SorobanDeploy.Rpc
