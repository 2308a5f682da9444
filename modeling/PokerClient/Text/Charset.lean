import PokerClient.Text.Utf8
import PokerClient.Text.Wide
import PokerClient.Text.Utf7
import PokerClient.Text.Blank
import PokerClient.Text.CodePage

/-!
# Charsets

The text encodings that a media type can name, and the codings of other things
that it can name by mistake. A name is compared without regard to case and with
any punctuation in it read as one mark. How the encodings of other scripts in
several octets are read is left to codecs that are given.
-/

namespace PokerClient
namespace Text

inductive Charset where
  | utf8
  /-- UTF-8 behind a mark that may be missing. -/
  | markedUtf8
  | latin1
  | ascii
  | codePage (page : CodePage)
  | utf7
  | utf16 (order : Option Wide.Order)
  | utf32 (order : Option Wide.Order)
  /-- A coding of octets in octets. -/
  | octetCoding
  /-- A coding of characters in characters. -/
  | cipher
  /-- The charset in which nothing is text. -/
  | undefined
  /-- The coding of host names. -/
  | hostName
  /-- A charset that is left to codecs, by its first name. -/
  | foreign (name : String)
  deriving DecidableEq, Repr

namespace Charset

/-- Why octets have no text in a charset. -/
inductive Fault where
  /-- Wide units do not start with the mark that tells their order. -/
  | noByteOrder (bits : Nat)
  | octetsExpected
  | charactersExpected
  | undefined
  /-- What is no text cannot be replaced in the coding. -/
  | noReplacement
  /-- A codec met octets of which it could make no text. -/
  | undecodable (message : String)
  /-- A codec gave up for another reason. -/
  | foreign (message : String)
  deriving DecidableEq, Repr

def Fault.describe : Fault → String
  | noByteOrder bits => s!"UTF-{bits} stream does not start with BOM"
  | octetsExpected => ""
  | charactersExpected =>
    "descriptor 'translate' for 'str' objects doesn't apply to a 'bytes' object"
  | undefined => "undefined encoding"
  | noReplacement => "Unsupported error handling replace"
  | undecodable message => message
  | foreign message => message

/-- A name with each run of punctuation inside it as one low line. -/
def normalName (cs : List Char) : List Char :=
  go false ((lower cs).dropWhile (!counts ·))
where
  counts (c : Char) : Bool := c.isAlphanum || c == '.'
  go : Bool → List Char → List Char
    | _, [] => []
    | gap, c :: rest =>
      if counts c then (if gap then ['_', c] else [c]) ++ go false rest else go true rest

/-- The charsets that are left to codecs, with their other names: those of Chinese,
Japanese and Korean, and texts in which characters are spelled out. -/
def foreignNames : List (String × List String) :=
  [("big5", ["big5_tw", "csbig5", "x_mac_trad_chinese"]),
    ("big5hkscs", ["big5_hkscs", "hkscs"]),
    ("cp932", ["932", "ms932", "mskanji", "ms_kanji"]),
    ("cp949", ["949", "ms949", "uhc"]),
    ("cp950", ["950", "ms950"]),
    ("euc_jis_2004", ["jisx0213", "eucjis2004", "euc_jis2004"]),
    ("euc_jisx0213", ["eucjisx0213"]),
    ("euc_jp", ["eucjp", "ujis", "u_jis"]),
    ("euc_kr", ["euckr", "korean", "ksc5601", "ks_c_5601", "ks_c_5601_1987", "ksx1001",
      "ks_x_1001", "x_mac_korean"]),
    ("gb18030", ["gb18030_2000"]),
    ("gb2312", ["chinese", "csiso58gb231280", "euc_cn", "euccn", "eucgb2312_cn", "gb2312_1980",
      "gb2312_80", "iso_ir_58", "x_mac_simp_chinese"]),
    ("gbk", ["936", "cp936", "ms936"]),
    ("hz", ["hzgb", "hz_gb", "hz_gb_2312"]),
    ("iso2022_jp", ["csiso2022jp", "iso2022jp", "iso_2022_jp"]),
    ("iso2022_jp_1", ["iso2022jp_1", "iso_2022_jp_1"]),
    ("iso2022_jp_2", ["iso2022jp_2", "iso_2022_jp_2"]),
    ("iso2022_jp_2004", ["iso_2022_jp_2004", "iso2022jp_2004"]),
    ("iso2022_jp_3", ["iso2022jp_3", "iso_2022_jp_3"]),
    ("iso2022_jp_ext", ["iso2022jp_ext", "iso_2022_jp_ext"]),
    ("iso2022_kr", ["csiso2022kr", "iso2022kr", "iso_2022_kr"]),
    ("johab", ["cp1361", "ms1361"]),
    ("shift_jis", ["csshiftjis", "shiftjis", "sjis", "s_jis", "x_mac_japanese"]),
    ("shift_jis_2004", ["shiftjis2004", "sjis_2004", "s_jis_2004"]),
    ("shift_jisx0213", ["shiftjisx0213", "sjisx0213", "s_jisx0213"]),
    ("punycode", []),
    ("unicode_escape", []),
    ("raw_unicode_escape", [])]

/-- Each charset with its name and its other names. -/
def names : List (Charset × String × List String) :=
  [(.utf8, "utf_8", ["u8", "utf", "utf8", "utf8_ucs2", "utf8_ucs4", "cp65001"]),
    (.markedUtf8, "utf_8_sig", []),
    (.latin1, "latin_1", ["latin1", "latin", "l1", "8859", "cp819", "csisolatin1", "ibm819",
      "iso8859", "iso8859_1", "iso_8859_1", "iso_8859_1_1987", "iso_ir_100"]),
    (.latin1, "charmap", []),
    (.ascii, "ascii", ["us_ascii", "us", "646", "ansi_x3.4_1968", "ansi_x3_4_1968",
      "ansi_x3.4_1986", "cp367", "csascii", "ibm367", "iso646_us", "iso_646.irv_1991",
      "iso_ir_6"]),
    (.utf7, "utf_7", ["u7", "utf7", "unicode_1_1_utf_7"]),
    (.utf16 none, "utf_16", ["u16", "utf16"]),
    (.utf16 (some .little), "utf_16_le", ["utf_16le", "unicodelittleunmarked"]),
    (.utf16 (some .big), "utf_16_be", ["utf_16be", "unicodebigunmarked"]),
    (.utf32 none, "utf_32", ["u32", "utf32"]),
    (.utf32 (some .little), "utf_32_le", ["utf_32le"]),
    (.utf32 (some .big), "utf_32_be", ["utf_32be"]),
    (.octetCoding, "hex_codec", ["hex"]),
    (.octetCoding, "base64_codec", ["base64", "base_64"]),
    (.octetCoding, "bz2_codec", ["bz2"]),
    (.octetCoding, "quopri_codec", ["quopri", "quoted_printable", "quotedprintable"]),
    (.octetCoding, "uu_codec", ["uu"]),
    (.octetCoding, "zlib_codec", ["zip", "zlib"]),
    (.cipher, "rot_13", ["rot13"]),
    (.undefined, "undefined", []),
    (.hostName, "idna", [])]
  ++ CodePage.all.map (fun page => (.codePage page, page.name, page.aliases))
  ++ foreignNames.map fun entry => (.foreign entry.1, entry)

/-- The charset of a name. In all but the first of its names a point may stand for
a low line. -/
def ofName? (name : List Char) : Option Charset :=
  let wanted := String.ofList (normalName name)
  let plain := String.ofList ((normalName name).map fun c => if c = '.' then '_' else c)
  (names.find? fun entry =>
    entry.2.1 == wanted || entry.2.2.contains wanted || entry.2.2.contains plain).map Prod.fst

/-- How the charsets that are left to codecs are read, by their first names. -/
structure Codecs where
  /-- The text of octets, with replacement characters for what is no text. -/
  repaired : String → List Octet → Except Fault (List Char)
  /-- The text of octets that are text throughout. -/
  strict? : String → List Octet → Option (List Char)

/-- Codecs that know ASCII only, which nearly all of the charsets have in common. -/
def Codecs.ascii : Codecs where
  repaired _ bs :=
    .ok (bs.map fun b => if b.toNat < 0x80 then Char.ofNat b.toNat else replacement)
  strict? _ bs :=
    if bs.all (·.toNat < 0x80) then some (bs.map fun b => Char.ofNat b.toNat) else none

/-- The octets after the mark, if it is there. Of a mark that is cut short nothing
remains. -/
def afterMark (bs : List Octet) : List Octet :=
  if bs.isPrefixOf Utf8.mark then []
  else if Utf8.mark.isPrefixOf bs then bs.drop 3
  else bs

/-- The text of wide units with replacement characters for what is no text. Where
a mark has to tell their order, there is no text without it; too few octets for a
mark are taken as they are. -/
def decodeWide (bits : Nat) (marked : Option (Wide.Order × List Octet))
    (pieces : Wide.Order → List Octet → List Piece) (bs : List Octet) :
    Except Fault (List Char) :=
  match marked with
  | some (order, rest) => .ok (repaired (pieces order rest))
  | none =>
    if bs.length < bits / 8 then .ok (repaired (pieces .little bs)) else .error (.noByteOrder bits)

/-- The text of octets, with replacement characters for what is no text. -/
def decode (codecs : Codecs) (charset : Charset) (bs : List Octet) :
    Except Fault (List Char) :=
  match charset with
  | .utf8 => .ok (Utf8.decodeRepaired bs)
  | .markedUtf8 => .ok (Utf8.decodeRepaired (afterMark bs))
  | .latin1 => .ok (bs.map fun b => Char.ofNat b.toNat)
  | .ascii => .ok (bs.map fun b => if b.toNat < 0x80 then Char.ofNat b.toNat else replacement)
  | .codePage page => .ok (page.decode bs)
  | .utf7 => .ok (Utf7.decodeRepaired bs)
  | .utf16 (some order) => .ok (repaired (Wide.pieces16 false order bs))
  | .utf32 (some order) => .ok (repaired (Wide.pieces32 false order bs))
  | .utf16 none => decodeWide 16 (Wide.order16? bs) (Wide.pieces16 false) bs
  | .utf32 none => decodeWide 32 (Wide.order32? bs) (Wide.pieces32 false) bs
  | .octetCoding => .error .octetsExpected
  | .cipher => .error .charactersExpected
  | .undefined => .error .undefined
  | .hostName => .error .noReplacement
  | .foreign name => codecs.repaired name bs

/-- A text in which nothing had to be replaced. -/
def unrepaired? (cs : List Char) : Option (List Char) :=
  if cs.contains replacement then none else some cs

/-- The text of octets that are text throughout. A mark need not be there. -/
def decodeStrict? (codecs : Codecs) (charset : Charset) (bs : List Octet) : Option (List Char) :=
  match charset with
  | .foreign name => codecs.strict? name bs
  | charset =>
    match charset.decode codecs bs with
    | .ok cs => unrepaired? cs
    | .error (.noByteOrder bits) =>
      unrepaired? (repaired (if bits = 32 then Wide.pieces32 false .little bs
        else Wide.pieces16 false .little bs))
    | .error _ => none

end Charset
end Text
end PokerClient
