import MeteredBilling.Text.CodePage
import MeteredBilling.Text.Utf8
import MeteredBilling.Text.Wide.Decoder

/-!
# Encodings

How bytes make up a text, and the labels by which encodings are known. A mark of the byte order of
UTF-8 at the front decides for that encoding, and is no part of the text.
-/

namespace MeteredBilling.Text

inductive Encoding
  | utf8
  | utf16 (isBigEndian : Bool)
  /-- One byte for each character, by the characters of the last bytes. -/
  | codePage (page : String)
  | wide (encoding : Wide)
  /-- Bytes from 128 on stand for characters of private use. -/
  | userDefined
  /-- A text in it counts as one fault. -/
  | replaced
  deriving DecidableEq, Repr

namespace Encoding

/-! ### Units of 16 bits -/

/-- The units of pairs of bytes; a byte that is left alone makes none. -/
def units (isBigEndian : Bool) : List UInt8 → List (Option Nat)
  | a :: b :: rest =>
    some (if isBigEndian then a.toNat * 256 + b.toNat else b.toNat * 256 + a.toNat)
      :: units isBigEndian rest
  | [_] => [none]
  | [] => []

def isHighSurrogate (unit : Nat) : Bool := 0xD800 ≤ unit && unit < 0xDC00

def isLowSurrogate (unit : Nat) : Bool := 0xDC00 ≤ unit && unit < 0xE000

/-- The characters of units; surrogates out of place and what is no unit are replaced. -/
def ofUnits : List (Option Nat) → List Char
  | some high :: some low :: rest =>
    if isHighSurrogate high && isLowSurrogate low then
      Char.ofNat (0x10000 + (high - 0xD800) * 0x400 + (low - 0xDC00)) :: ofUnits rest
    else if isHighSurrogate high || isLowSurrogate high then
      Utf8.replacement :: ofUnits (some low :: rest)
    else Char.ofNat high :: ofUnits (some low :: rest)
  | some unit :: rest =>
    if isHighSurrogate unit then [Utf8.replacement]
    else (if isLowSurrogate unit then Utf8.replacement else Char.ofNat unit) :: ofUnits rest
  | none :: rest => Utf8.replacement :: ofUnits rest
  | [] => []

/-! ### Texts -/

/-- The text of bytes without a mark of their order. -/
def decodeUnmarked (bytes : List UInt8) : Encoding → String
  | utf8 => Utf8.decodeLossy bytes
  | utf16 isBigEndian => String.ofList (ofUnits (units isBigEndian bytes))
  | codePage page =>
    let chars := page.toList.toArray
    String.ofList (bytes.map fun b =>
      if b.toNat + chars.size < 256 then Char.ofNat b.toNat
      else chars.getD (b.toNat + chars.size - 256) Utf8.replacement)
  | wide encoding => String.ofList (encoding.decode bytes)
  | userDefined =>
    String.ofList (bytes.map fun b => Char.ofNat (b.toNat + if b < 0x80 then 0 else 0xF700))
  | replaced => if bytes.isEmpty then "" else String.singleton Utf8.replacement

/-- The text of bytes; faults are replaced. -/
def decode (encoding : Encoding) : List UInt8 → String
  | 0xEF :: 0xBB :: 0xBF :: rest => utf8.decodeUnmarked rest
  | bytes => encoding.decodeUnmarked bytes

/-! ### Labels -/

def labels : List (List String × Encoding) :=
  [(["unicode-1-1-utf-8", "unicode11utf8", "unicode20utf8", "utf-8", "utf8", "x-unicode20utf8"],
      .utf8),
    (["unicodefffe", "utf-16be"], .utf16 true),
    (["csunicode", "iso-10646-ucs-2", "ucs-2", "unicode", "unicodefeff", "utf-16", "utf-16le"],
      .utf16 false),
    (["csiso2022kr", "hz-gb-2312", "iso-2022-cn", "iso-2022-cn-ext", "iso-2022-kr", "replacement"],
      .replaced),
    (["x-user-defined"], .userDefined),
    (["chinese", "csgb2312", "csiso58gb231280", "gb2312", "gb_2312", "gb_2312-80", "gbk",
      "iso-ir-58", "x-gbk", "gb18030"], .wide .gb18030),
    (["big5", "big5-hkscs", "cn-big5", "csbig5", "x-x-big5"], .wide .big5),
    (["cseucpkdfmtjapanese", "euc-jp", "x-euc-jp"], .wide .eucJp),
    (["csiso2022jp", "iso-2022-jp"], .wide .iso2022Jp),
    (["csshiftjis", "ms932", "ms_kanji", "shift-jis", "shift_jis", "sjis", "windows-31j",
      "x-sjis"], .wide .shiftJis),
    (["cseuckr", "csksc56011987", "euc-kr", "iso-ir-149", "korean", "ks_c_5601-1987",
      "ks_c_5601-1989", "ksc5601", "ksc_5601", "windows-949"], .wide .eucKr),
    (["866", "cp866", "csibm866", "ibm866"], .codePage CodePage.ibm866),
    (["csisolatin2", "iso-8859-2", "iso-ir-101", "iso8859-2", "iso88592", "iso_8859-2",
      "iso_8859-2:1987", "l2", "latin2"], .codePage CodePage.latin2),
    (["csisolatin3", "iso-8859-3", "iso-ir-109", "iso8859-3", "iso88593", "iso_8859-3",
      "iso_8859-3:1988", "l3", "latin3"], .codePage CodePage.latin3),
    (["csisolatin4", "iso-8859-4", "iso-ir-110", "iso8859-4", "iso88594", "iso_8859-4",
      "iso_8859-4:1988", "l4", "latin4"], .codePage CodePage.latin4),
    (["csisolatincyrillic", "cyrillic", "iso-8859-5", "iso-ir-144", "iso8859-5", "iso88595",
      "iso_8859-5", "iso_8859-5:1988"], .codePage CodePage.cyrillic),
    (["arabic", "asmo-708", "csiso88596e", "csiso88596i", "csisolatinarabic", "ecma-114",
      "iso-8859-6", "iso-8859-6-e", "iso-8859-6-i", "iso-ir-127", "iso8859-6", "iso88596",
      "iso_8859-6", "iso_8859-6:1987"], .codePage CodePage.arabic),
    (["csisolatingreek", "ecma-118", "elot_928", "greek", "greek8", "iso-8859-7", "iso-ir-126",
      "iso8859-7", "iso88597", "iso_8859-7", "iso_8859-7:1987", "sun_eu_greek"],
      .codePage CodePage.greek),
    (["csiso88598e", "csisolatinhebrew", "hebrew", "iso-8859-8", "iso-8859-8-e", "iso-ir-138",
      "iso8859-8", "iso88598", "iso_8859-8", "iso_8859-8:1988", "visual", "csiso88598i",
      "iso-8859-8-i", "logical"], .codePage CodePage.hebrew),
    (["csisolatin6", "iso-8859-10", "iso-ir-157", "iso8859-10", "iso885910", "l6", "latin6"],
      .codePage CodePage.latin6),
    (["iso-8859-13", "iso8859-13", "iso885913"], .codePage CodePage.latin7),
    (["iso-8859-14", "iso8859-14", "iso885914"], .codePage CodePage.latin8),
    (["csisolatin9", "iso-8859-15", "iso8859-15", "iso885915", "iso_8859-15", "l9"],
      .codePage CodePage.latin9),
    (["iso-8859-16"], .codePage CodePage.latin10),
    (["cskoi8r", "koi", "koi8", "koi8-r", "koi8_r"], .codePage CodePage.koi8r),
    (["koi8-ru", "koi8-u"], .codePage CodePage.koi8u),
    (["csmacintosh", "mac", "macintosh", "x-mac-roman"], .codePage CodePage.macintosh),
    (["dos-874", "iso-8859-11", "iso8859-11", "iso885911", "tis-620", "windows-874"],
      .codePage CodePage.windows874),
    (["cp1250", "windows-1250", "x-cp1250"], .codePage CodePage.windows1250),
    (["cp1251", "windows-1251", "x-cp1251"], .codePage CodePage.windows1251),
    (["ansi_x3.4-1968", "ascii", "cp1252", "cp819", "csisolatin1", "ibm819", "iso-8859-1",
      "iso-ir-100", "iso8859-1", "iso88591", "iso_8859-1", "iso_8859-1:1987", "l1", "latin1",
      "us-ascii", "windows-1252", "x-cp1252"], .codePage CodePage.windows1252),
    (["cp1253", "windows-1253", "x-cp1253"], .codePage CodePage.windows1253),
    (["cp1254", "csisolatin5", "iso-8859-9", "iso-ir-148", "iso8859-9", "iso88599", "iso_8859-9",
      "iso_8859-9:1989", "l5", "latin5", "windows-1254", "x-cp1254"],
      .codePage CodePage.windows1254),
    (["cp1255", "windows-1255", "x-cp1255"], .codePage CodePage.windows1255),
    (["cp1256", "windows-1256", "x-cp1256"], .codePage CodePage.windows1256),
    (["cp1257", "windows-1257", "x-cp1257"], .codePage CodePage.windows1257),
    (["cp1258", "windows-1258", "x-cp1258"], .codePage CodePage.windows1258),
    (["x-mac-cyrillic", "x-mac-ukrainian"], .codePage CodePage.macCyrillic)]

/-- The encoding of that label, in any case and with blanks around it. -/
def ofLabel? (label : List Char) : Option Encoding :=
  let isBlank (c : Char) : Bool := " \t\n\x0c\r".toList.contains c
  let label := (label.dropWhile isBlank).reverse.dropWhile isBlank
  let label := String.ofList (label.reverse.map Char.toLower)
  (labels.find? (·.1.contains label)).map (·.2)

end Encoding
end MeteredBilling.Text
