import SorobanDeploy.Text.Charset.Backslash
import SorobanDeploy.Text.Charset.Iso2022
import SorobanDeploy.Text.Charset.Single
import SorobanDeploy.Text.Charset.Utf7
import SorobanDeploy.Text.Punycode
import SorobanDeploy.Text.Utf16

/-!
# Character sets

What octets mean as text. A set reads any octets: what is ill-formed gives nothing in its place, so
the text is known up to these gaps. `strict` gives the text if there are none, `lossy` puts the
replacement character into them; the two agree where both give a text (`lossy_of_strict`).

Two sets do not read all octets, and are apart from the others: one of ASCII with gaps, which stops
at octets that are no digits, and one that is a name only.
-/

namespace SorobanDeploy.Text

/-- The character sets. An order that is not given is told by a mark at the beginning, and is little
without one. -/
inductive Charset where
  | utf8
  | utf8Marked
  | utf16 (order : Option Utf16.ByteOrder)
  | utf32 (order : Option Utf16.ByteOrder)
  | utf7
  | single (rows : Table)
  | eucJp
  | eucJisX0213 (edition : Charset.Edition)
  | shiftJis
  | cp932
  | shiftJisX0213 (edition : Charset.Edition)
  | eucCn
  | gbk
  | gb18030
  | hz
  | big5
  | cp950
  | big5Hkscs
  | eucKr
  | cp949
  | johab
  | iso2022 (form : Charset.Iso2022.Form)
  | backslashes
  | shortBackslashes
  deriving DecidableEq, Repr

namespace Charset

/-- The characters of four-octet units. -/
def parts32 (order : Utf16.ByteOrder) : Octets → List (Option Char)
  | [] => []
  | a :: b :: c :: d :: rest =>
    let n := match order with
      | .little => Utf16.unit .little c d * 0x10000 + Utf16.unit .little a b
      | .big => Utf16.unit .big a b * 0x10000 + Utf16.unit .big c d
    (if n.isValidChar then some (Char.ofNat n) else none) :: parts32 order rest
  | _ => [none]

/-- The characters of octets, and nothing for each ill-formed part. -/
def parts (charset : Charset) (bs : Octets) : List (Option Char) :=
  match charset, bs with
  | .utf8, bs => Utf8.parts bs
  | .utf8Marked, 0xEF :: 0xBB :: 0xBF :: bs => Utf8.parts bs
  | .utf8Marked, bs => Utf8.parts bs
  | .utf16 (some order), bs => Utf16.parts order bs
  | .utf16 none, 0xFF :: 0xFE :: bs => Utf16.parts .little bs
  | .utf16 none, 0xFE :: 0xFF :: bs => Utf16.parts .big bs
  | .utf16 none, bs => Utf16.parts .little bs
  | .utf32 (some order), bs => parts32 order bs
  | .utf32 none, 0xFF :: 0xFE :: 0 :: 0 :: bs => parts32 .little bs
  | .utf32 none, 0 :: 0 :: 0xFE :: 0xFF :: bs => parts32 .big bs
  | .utf32 none, bs => parts32 .little bs
  | .utf7, bs => Utf7.parts bs
  | .single rows, bs => singles rows bs
  | .eucJp, bs => Stateless.eucJp.parts bs
  | .eucJisX0213 e, bs => (Stateless.eucJisX0213 e).parts bs
  | .shiftJis, bs => Stateless.shiftJis.parts bs
  | .cp932, bs => Stateless.cp932.parts bs
  | .shiftJisX0213 e, bs => (Stateless.shiftJisX0213 e).parts bs
  | .eucCn, bs => Stateless.eucCn.parts bs
  | .gbk, bs => Stateless.gbk.parts bs
  | .gb18030, bs => Stateless.gb18030.parts bs
  | .hz, bs => readAll Reader.hz false bs
  | .big5, bs => Stateless.big5.parts bs
  | .cp950, bs => Stateless.cp950.parts bs
  | .big5Hkscs, bs => Stateless.big5Hkscs.parts bs
  | .eucKr, bs => Stateless.eucKr.parts bs
  | .cp949, bs => Stateless.cp949.parts bs
  | .johab, bs => Stateless.johab.parts bs
  | .iso2022 form, bs => Iso2022.parts form bs
  | .backslashes, bs => Backslash.full.parts bs
  | .shortBackslashes, bs => Backslash.short.parts bs

/-- The text of octets, if all of it is well-formed. -/
def strict (charset : Charset) (bs : Octets) : Option (List Char) := (charset.parts bs).mapM id

/-- The text of octets, with the replacement character for each ill-formed part. -/
def lossy (charset : Charset) (bs : Octets) : List Char :=
  (charset.parts bs).map fun c => c.getD '\uFFFD'

/-- Where all octets are well-formed, both readings give the same text. -/
theorem lossy_of_strict (charset : Charset) (bs : Octets) (cs : List Char)
    (h : charset.strict bs = some cs) : charset.lossy bs = cs := by
  unfold strict at h
  unfold lossy
  generalize charset.parts bs = ps at h
  induction ps generalizing cs with
  | nil => simpa using h
  | cons p ps ih =>
    simp only [List.mapM_cons, Option.bind_eq_bind, Option.bind_eq_some_iff, Option.pure_def,
      Option.some.injEq] at h
    obtain ⟨c, found, rest, rests, rfl⟩ := h
    simp only [id_eq] at found
    rw [List.map_cons, ih rest rests, found, Option.getD_some]

end Charset

end SorobanDeploy.Text
