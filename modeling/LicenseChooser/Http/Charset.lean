import LicenseChooser.Http.MediaType
import LicenseChooser.Http.Message
import LicenseChooser.Text.Blank
import LicenseChooser.Text.Encoding.Gb18030
import LicenseChooser.Text.Encoding.Japanese
import LicenseChooser.Text.Encoding.SingleByteData

/-!
The text of a response body. A byte order mark decides the encoding and is no part of the text; without
one the charset of the content type does, by the labels of the Encoding Standard; and where it is none of
these it is UTF-8.
-/

namespace LicenseChooser.Http

open Text

inductive Charset where
  | utf8
  | utf16 (bigEndian : Bool)
  /-- One byte for a character; `high` are those of the bytes from 80 on, with a dot where there is
  none. -/
  | table (high : String)
  | userDefined
  | gb18030
  | big5
  | eucJp
  | iso2022Jp
  | shiftJis
  | eucKr
  /-- What is known by name only. -/
  | undecoded
  deriving DecidableEq, Repr

/-- What the bytes 80 to 9F stand for in ISO 8859. -/
def controls : String := String.ofList ((List.range' 0x80 32).map Char.ofNat)

/-- The characters of single bytes, where those from 80 on are in a table. -/
def decodeSingle (high : Array Char) (bytes : List UInt8) : List Char :=
  bytes.map fun b =>
    if isAscii b then .ofNat b.toNat else (charAt? high (b.toNat - 0x80)).getD replacement

/-- The characters of a list of 16-bit units; a lone surrogate is no character. -/
def decodeUnits : List Nat → List Char
  | [] => []
  | [unit] => [if unit.isValidChar then .ofNat unit else replacement]
  | high :: low :: rest =>
      if 0xD800 ≤ high ∧ high ≤ 0xDBFF ∧ 0xDC00 ≤ low ∧ low ≤ 0xDFFF then
        .ofNat (0x10000 + (high - 0xD800) * 0x400 + (low - 0xDC00)) :: decodeUnits rest
      else if high.isValidChar then .ofNat high :: decodeUnits (low :: rest)
      else replacement :: decodeUnits (low :: rest)

/-- The 16-bit units of a byte sequence, and whether a byte is left over. -/
def units (bigEndian : Bool) : List UInt8 → List Nat × Bool
  | [] => ([], false)
  | [_] => ([], true)
  | a :: b :: rest =>
      let (others, odd) := units bigEndian rest
      let unit := if bigEndian then a.toNat * 256 + b.toNat else b.toNat * 256 + a.toNat
      (unit :: others, odd)

/-- A byte left over ends the text with one replacement, into which a surrogate before it merges. -/
def decodeUtf16 (bigEndian : Bool) (bytes : List UInt8) : List Char :=
  let (us, odd) := units bigEndian bytes
  if !odd then decodeUnits us
  else
    match us.getLast? with
    | some last =>
        if 0xD800 ≤ last ∧ last ≤ 0xDBFF then decodeUnits us.dropLast ++ [replacement]
        else decodeUnits us ++ [replacement]
    | none => [replacement]

/-- The bytes from 80 on are the last ones of an area that is left to users. -/
def decodeUserDefined (bytes : List UInt8) : List Char :=
  bytes.map fun b => .ofNat (if isAscii b then b.toNat else 0xF780 + (b.toNat - 0x80))

def Charset.decode : Charset → List UInt8 → List Char
  | .utf8 => decodeUtf8
  | .utf16 bigEndian => decodeUtf16 bigEndian
  | .table high => decodeSingle high.toList.toArray
  | .userDefined => decodeUserDefined
  | .gb18030 => decodeGb18030
  | .big5 => Text.big5.decode
  | .eucJp => decodeEucJp
  | .iso2022Jp => decodeIso2022Jp
  | .shiftJis => Text.shiftJis.decode
  | .eucKr => Text.eucKr.decode
  | .undecoded => fun bytes => if bytes.isEmpty then [] else [replacement]

/-- The labels of each encoding, with blanks between them. -/
def Charset.labels : List (Charset × String) :=
  [ (.utf8, "unicode-1-1-utf-8 unicode11utf8 unicode20utf8 utf-8 utf8 x-unicode20utf8"),
    (.table ibm866, "866 cp866 csibm866 ibm866"),
    (.table (controls ++ iso8859_2),
      "csisolatin2 iso-8859-2 iso-ir-101 iso8859-2 iso88592 iso_8859-2 iso_8859-2:1987 l2 " ++
        "latin2"),
    (.table (controls ++ iso8859_3),
      "csisolatin3 iso-8859-3 iso-ir-109 iso8859-3 iso88593 iso_8859-3 iso_8859-3:1988 l3 " ++
        "latin3"),
    (.table (controls ++ iso8859_4),
      "csisolatin4 iso-8859-4 iso-ir-110 iso8859-4 iso88594 iso_8859-4 iso_8859-4:1988 l4 " ++
        "latin4"),
    (.table (controls ++ iso8859_5),
      "csisolatincyrillic cyrillic iso-8859-5 iso-ir-144 iso8859-5 iso88595 iso_8859-5 " ++
        "iso_8859-5:1988"),
    (.table (controls ++ iso8859_6),
      "arabic asmo-708 csiso88596e csiso88596i csisolatinarabic ecma-114 iso-8859-6 " ++
        "iso-8859-6-e iso-8859-6-i iso-ir-127 iso8859-6 iso88596 iso_8859-6 iso_8859-6:1987"),
    (.table (controls ++ iso8859_7),
      "csisolatingreek ecma-118 elot_928 greek greek8 iso-8859-7 iso-ir-126 iso8859-7 " ++
        "iso88597 iso_8859-7 iso_8859-7:1987 sun_eu_greek"),
    (.table (controls ++ iso8859_8),
      "csiso88598e csiso88598i csisolatinhebrew hebrew iso-8859-8 iso-8859-8-e iso-8859-8-i " ++
        "iso-ir-138 iso8859-8 iso88598 iso_8859-8 iso_8859-8:1988 logical visual"),
    (.table (controls ++ iso8859_10),
      "csisolatin6 iso-8859-10 iso-ir-157 iso8859-10 iso885910 l6 latin6"),
    (.table (controls ++ iso8859_13), "iso-8859-13 iso8859-13 iso885913"),
    (.table (controls ++ iso8859_14), "iso-8859-14 iso8859-14 iso885914"),
    (.table (controls ++ iso8859_15),
      "csisolatin9 iso-8859-15 iso8859-15 iso885915 iso_8859-15 l9"),
    (.table (controls ++ iso8859_16), "iso-8859-16"),
    (.table koi8R, "cskoi8r koi koi8 koi8-r koi8_r"),
    (.table koi8U, "koi8-ru koi8-u"),
    (.table macRoman, "csmacintosh mac macintosh x-mac-roman"),
    (.table windows874, "dos-874 iso-8859-11 iso8859-11 iso885911 tis-620 windows-874"),
    (.table windows1250, "cp1250 windows-1250 x-cp1250"),
    (.table windows1251, "cp1251 windows-1251 x-cp1251"),
    (.table windows1252,
      "ansi_x3.4-1968 ascii cp1252 cp819 csisolatin1 ibm819 iso-8859-1 iso-ir-100 iso8859-1 " ++
        "iso88591 iso_8859-1 iso_8859-1:1987 l1 latin1 us-ascii windows-1252 x-cp1252"),
    (.table windows1253, "cp1253 windows-1253 x-cp1253"),
    (.table windows1254,
      "cp1254 csisolatin5 iso-8859-9 iso-ir-148 iso8859-9 iso88599 iso_8859-9 " ++
        "iso_8859-9:1989 l5 latin5 windows-1254 x-cp1254"),
    (.table windows1255, "cp1255 windows-1255 x-cp1255"),
    (.table windows1256, "cp1256 windows-1256 x-cp1256"),
    (.table windows1257, "cp1257 windows-1257 x-cp1257"),
    (.table windows1258, "cp1258 windows-1258 x-cp1258"),
    (.table macCyrillic, "x-mac-cyrillic x-mac-ukrainian"),
    (.gb18030,
      "chinese csgb2312 csiso58gb231280 gb18030 gb2312 gb_2312 gb_2312-80 gbk iso-ir-58 " ++
        "x-gbk"),
    (.big5, "big5 big5-hkscs cn-big5 csbig5 x-x-big5"),
    (.eucJp, "cseucpkdfmtjapanese euc-jp x-euc-jp"),
    (.iso2022Jp, "csiso2022jp iso-2022-jp"),
    (.shiftJis, "csshiftjis ms932 ms_kanji shift-jis shift_jis sjis windows-31j x-sjis"),
    (.eucKr,
      "cseuckr csksc56011987 euc-kr iso-ir-149 korean ks_c_5601-1987 ks_c_5601-1989 ksc5601 " ++
        "ksc_5601 windows-949"),
    (.utf16 true, "unicodefffe utf-16be"),
    (.utf16 false, "csunicode iso-10646-ucs-2 ucs-2 unicode unicodefeff utf-16 utf-16le"),
    (.userDefined, "x-user-defined"),
    (.undecoded, "csiso2022kr hz-gb-2312 iso-2022-cn iso-2022-cn-ext iso-2022-kr replacement") ]

/-- The encoding that a label names, in any case and with blanks around it. -/
def Charset.ofLabel? (label : String) : Option Charset :=
  let name := (trim label).toLower.toList
  (labels.find? fun entry => (splitWhere (· == ' ') entry.2.toList).contains name).map (·.1)

/-- The encoding that a byte order mark announces, and the bytes after it. -/
def byteOrderMark? : List UInt8 → Option (Charset × List UInt8)
  | 0xEF :: 0xBB :: 0xBF :: rest => some (.utf8, rest)
  | 0xFF :: 0xFE :: rest => some (.utf16 false, rest)
  | 0xFE :: 0xFF :: rest => some (.utf16 true, rest)
  | _ => none

def Response.charset (r : Response) : Charset :=
  (((r.header? "content-type").bind (MediaType.parameter? · "charset")).bind
    Charset.ofLabel?).getD .utf8

def Response.text (r : Response) : String :=
  match byteOrderMark? r.body with
  | some (charset, rest) => String.ofList (charset.decode rest)
  | none => String.ofList (r.charset.decode r.body)

end LicenseChooser.Http
