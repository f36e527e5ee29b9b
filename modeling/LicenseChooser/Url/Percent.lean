import LicenseChooser.Text.Numeral
import LicenseChooser.Text.Utf8

/-!
Percent-encoding. Each component of a URL has its set of characters that are written as their
UTF-8 bytes; the sets are those of the URL standard, each one an extension of another.
-/

namespace LicenseChooser.Url

open Text

/-- Control characters, and everything that is not ASCII. -/
def controlSet (c : Char) : Bool := c.toNat < 0x20 || 0x7F ≤ c.toNat

def fragmentSet (c : Char) : Bool := controlSet c || [' ', '"', '<', '>', '\x60'].contains c

def querySet (c : Char) : Bool := controlSet c || [' ', '"', '#', '<', '>'].contains c

def specialQuerySet (c : Char) : Bool := querySet c || c == '\''

def pathSet (c : Char) : Bool := fragmentSet c || ['#', '?', '\x7b', '\x7d'].contains c

def userinfoSet (c : Char) : Bool :=
  pathSet c || ['/', ':', ';', '=', '@', '[', '\\', ']', '^', '|'].contains c

/-- For one path segment given as a value: what separates segments is encoded too. -/
def segmentSet (c : Char) : Bool := pathSet c || c == '/' || c == '%'

/-- The same where a backslash separates segments. -/
def specialSegmentSet (c : Char) : Bool := segmentSet c || c == '\\'

def encodeByte (b : UInt8) : List Char :=
  ['%', upperHexDigit (b.toNat / 16), upperHexDigit (b.toNat % 16)]

/-- Writes the characters of `set` as bytes and all others as they are. -/
def percentEncode (set : Char → Bool) (cs : List Char) : List Char :=
  cs.flatMap fun c => if set c then (encodeCharUtf8 c).flatMap encodeByte else [c]

/-- The bytes of a text in which `%` and two hexadecimal digits stand for a byte; any other `%`
stands for itself. -/
def percentDecode (cs : List Char) : List UInt8 :=
  match cs with
  | [] => []
  | '%' :: a :: b :: rest =>
      match digitValue? 16 a, digitValue? 16 b with
      | some high, some low => .ofNat (high * 16 + low) :: percentDecode rest
      | _, _ => 0x25 :: percentDecode (a :: b :: rest)
  | c :: rest => encodeCharUtf8 c ++ percentDecode rest

end LicenseChooser.Url
