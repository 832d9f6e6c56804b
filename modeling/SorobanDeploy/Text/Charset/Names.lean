import SorobanDeploy.Text.Charset
import SorobanDeploy.Text.Charset.Single.Decimal
import SorobanDeploy.Text.Charset.Single.Frames
import SorobanDeploy.Text.Charset.Single.Iso
import SorobanDeploy.Text.Charset.Single.Macintosh
import SorobanDeploy.Text.Charset.Single.Regional
import SorobanDeploy.Text.Charset.Single.Windows
import SorobanDeploy.Text.Split

/-!
# Names of character sets

A set has a title and other names. Letters count alike whether small or capital, and so do all signs
between letters and digits, except that a point stands for another sign only in the other names.
-/

namespace SorobanDeploy.Text.Charset

/-- What a name stands for. -/
inductive Named where
  /-- A set that reads any octets. -/
  | charset (c : Charset)
  /-- ASCII with gaps. -/
  | gaps
  /-- A name that no octets are read by. -/
  | noReading (title : String)
  deriving DecidableEq, Repr

/-- A named set: its title, its other names, and what they stand for. -/
structure Entry where
  title : String
  aliases : List String
  named : Named
  deriving Repr

/-- A name in lower case, with one underscore for every run of other characters than letters, digits
and points. -/
def plainName (cs : List Char) : List Char :=
  let kept := cs.map fun c => if c.isAlphanum || c = '.' then c.toLower else '_'
  let joined := kept.foldr (fun c done =>
    if c = '_' ∧ done.head? = some '_' then done else c :: done) []
  trim (· = '_') joined

/-- The sets for all characters. -/
def unicodeEntries : List Entry := [
  ⟨"utf_8", ["utf8", "utf", "u8", "utf8_ucs2", "utf8_ucs4", "cp65001"], .charset .utf8⟩,
  ⟨"utf_8_sig", [], .charset .utf8Marked⟩,
  ⟨"utf_16", ["utf16", "u16"], .charset (.utf16 none)⟩,
  ⟨"utf_16_be", ["utf_16be", "unicodebigunmarked"], .charset (.utf16 (some .big))⟩,
  ⟨"utf_16_le", ["utf_16le", "unicodelittleunmarked"], .charset (.utf16 (some .little))⟩,
  ⟨"utf_32", ["utf32", "u32"], .charset (.utf32 none)⟩,
  ⟨"utf_32_be", ["utf_32be"], .charset (.utf32 (some .big))⟩,
  ⟨"utf_32_le", ["utf_32le"], .charset (.utf32 (some .little))⟩,
  ⟨"utf_7", ["utf7", "u7", "unicode_1_1_utf_7"], .charset .utf7⟩,
  ⟨"unicode_escape", [], .charset .backslashes⟩,
  ⟨"raw_unicode_escape", [], .charset .shortBackslashes⟩,
  ⟨"punycode", [], .gaps⟩,
  ⟨"idna", [], .noReading "idna"⟩,
  ⟨"undefined", [], .noReading "undefined"⟩]

/-- The first sets of one octet a character, which are named by their rules. -/
def plainEntries : List Single := [
  ⟨"ascii", ["us_ascii", "us", "646", "cp367", "ibm367", "csascii", "iso646_us", "iso_ir_6",
    "ansi_x3.4_1968", "ansi_x3_4_1968", "ansi_x3.4_1986", "iso_646.irv_1991"], "0-7F>0"⟩,
  ⟨"latin_1", ["latin1", "latin", "l1", "iso_8859_1", "iso8859_1", "iso8859", "8859", "cp819",
    "ibm819", "csisolatin1", "iso_8859_1_1987", "iso_ir_100"], "0-FF>0"⟩,
  ⟨"charmap", [], "0-FF>0"⟩]

/-- The sets of squares and rows. -/
def wideEntries : List Entry := [
  ⟨"euc_jp", ["eucjp", "ujis", "u_jis"], .charset .eucJp⟩,
  ⟨"euc_jis_2004", ["jisx0213", "eucjis2004", "euc_jis2004"], .charset (.eucJisX0213 .second)⟩,
  ⟨"euc_jisx0213", ["eucjisx0213"], .charset (.eucJisX0213 .first)⟩,
  ⟨"shift_jis", ["csshiftjis", "shiftjis", "sjis", "s_jis", "x_mac_japanese"], .charset .shiftJis⟩,
  ⟨"cp932", ["932", "ms932", "mskanji", "ms_kanji"], .charset .cp932⟩,
  ⟨"shift_jis_2004", ["shiftjis2004", "sjis_2004", "s_jis_2004"],
    .charset (.shiftJisX0213 .second)⟩,
  ⟨"shift_jisx0213", ["shiftjisx0213", "sjisx0213", "s_jisx0213"],
    .charset (.shiftJisX0213 .first)⟩,
  ⟨"gb2312", ["chinese", "csiso58gb231280", "euc_cn", "euccn", "eucgb2312_cn", "gb2312_1980",
    "gb2312_80", "iso_ir_58", "x_mac_simp_chinese"], .charset .eucCn⟩,
  ⟨"gbk", ["936", "cp936", "ms936"], .charset .gbk⟩,
  ⟨"gb18030", ["gb18030_2000"], .charset .gb18030⟩,
  ⟨"hz", ["hzgb", "hz_gb", "hz_gb_2312"], .charset .hz⟩,
  ⟨"big5", ["big5_tw", "csbig5", "x_mac_trad_chinese"], .charset .big5⟩,
  ⟨"cp950", ["950", "ms950"], .charset .cp950⟩,
  ⟨"big5hkscs", ["big5_hkscs", "hkscs"], .charset .big5Hkscs⟩,
  ⟨"euc_kr", ["euckr", "korean", "ksc5601", "ks_c_5601", "ks_c_5601_1987", "ksx1001", "ks_x_1001",
    "x_mac_korean"], .charset .eucKr⟩,
  ⟨"cp949", ["949", "ms949", "uhc"], .charset .cp949⟩,
  ⟨"johab", ["cp1361", "ms1361"], .charset .johab⟩,
  ⟨"iso2022_jp", ["csiso2022jp", "iso2022jp", "iso_2022_jp"], .charset (.iso2022 .jp)⟩,
  ⟨"iso2022_jp_1", ["iso2022jp_1", "iso_2022_jp_1"], .charset (.iso2022 .jp1)⟩,
  ⟨"iso2022_jp_2", ["iso2022jp_2", "iso_2022_jp_2"], .charset (.iso2022 .jp2)⟩,
  ⟨"iso2022_jp_2004", ["iso_2022_jp_2004", "iso2022jp_2004"], .charset (.iso2022 .jp2004)⟩,
  ⟨"iso2022_jp_3", ["iso2022jp_3", "iso_2022_jp_3"], .charset (.iso2022 .jp3)⟩,
  ⟨"iso2022_jp_ext", ["iso2022jp_ext", "iso_2022_jp_ext"], .charset (.iso2022 .jpExtended)⟩,
  ⟨"iso2022_kr", ["csiso2022kr", "iso2022kr", "iso_2022_kr"], .charset (.iso2022 .kr)⟩]

/-- The sets of one octet a character. -/
def singleSets : List Single :=
  plainEntries ++ isoSets ++ windowsSets ++ frameSets ++ decimalSets ++ macintoshSets
    ++ regionalSets

/-- Whether a set with a title and other names goes by a name. -/
def goesBy (title : String) (aliases : List String) (plain : List Char) : Bool :=
  let pointless := plain.map fun c => if c = '.' then '_' else c
  title.toList = plain || aliases.any fun a => a.toList = plain || a.toList = pointless

/-- What a name stands for. -/
def named? (name : List Char) : Option Named :=
  let plain := plainName name
  match (unicodeEntries ++ wideEntries).find? fun e => goesBy e.title e.aliases plain with
  | some e => some e.named
  | none =>
    (singleSets.find? fun s => goesBy s.title s.aliases plain).map fun s =>
      .charset (.single (Table.ofText s.rows))

end SorobanDeploy.Text.Charset
