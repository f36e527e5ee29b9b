import LicenseChooser.Text.Scan
import LicenseChooser.Url.Percent

/-!
Pairs of name and value in a query. Letters, digits and four signs stand for themselves, a blank is
written as a plus sign, everything else as its bytes.
-/

namespace LicenseChooser.Url.Form

open Text

/-- What is written as it is. -/
def isPlain (c : Char) : Bool := c.isAlphanum || ['*', '-', '.', '_'].contains c

def encodeChar (c : Char) : List Char :=
  if isPlain c then [c]
  else if c = ' ' then ['+']
  else (encodeCharUtf8 c).flatMap encodeByte

def encode (cs : List Char) : List Char := cs.flatMap encodeChar

def encodePair (name value : String) : List Char := encode name.toList ++ '=' :: encode value.toList

/-- The text that a written name or value stands for. -/
def decode (cs : List Char) : List Char :=
  decodeUtf8 (percentDecode (cs.map fun c => if c = '+' then ' ' else c))

/-- The pairs of a query. Empty parts are none, and a part without `=` is a name. -/
def decodePairs (cs : List Char) : List (List Char × List Char) :=
  ((splitWhere (· == '&') cs).filter (!·.isEmpty)).map fun part =>
    let (name, value) := cutWhere (· == '=') part
    (decode name, decode (value.getD []))

end LicenseChooser.Url.Form
