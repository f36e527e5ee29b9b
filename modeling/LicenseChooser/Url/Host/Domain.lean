import LicenseChooser.Text.Scan
import LicenseChooser.Text.Utf8
import LicenseChooser.Url.Error
import LicenseChooser.Url.Host.Direction
import LicenseChooser.Url.Host.Joining
import LicenseChooser.Url.Host.Mapping
import LicenseChooser.Url.Host.Punycode

/-!
Domain names in ASCII form. A name is mapped and normalised as a whole, then each label that holds
more than ASCII is written in Punycode. A label that already is in this form must be what its
decoded text would be written as. Joiners and directions are judged on the text that is shown.
-/

namespace LicenseChooser.Url.Domain

open Text

def isAscii (cs : List Char) : Bool := cs.all (·.toNat < 0x80)

/-- The ASCII characters that no domain name may hold. -/
def forbidden (c : Char) : Bool :=
  c.toNat ≤ 0x20 || c.toNat == 0x7F ||
    ['%', '#', '/', ':', '<', '>', '?', '@', '[', '\\', ']', '^', '|'].contains c

/-- What begins a label in Punycode. -/
def marker : List Char := ['x', 'n', '-', '-']

/-- The whole name after mapping and normalisation. -/
def mapped? (cs : List Char) : Option (List Char) :=
  (cs.mapM Mapping.mapChar?).map fun parts =>
    if isAscii parts.flatten then parts.flatten else normalize parts.flatten

/-- Whether a decoded label may be one: not ASCII alone, unchanged by mapping and normalisation,
and beginning with no mark. -/
def validDecoded (label : List Char) : Bool :=
  !isAscii label && mapped? label == some label && !label.any forbidden &&
    !label.contains '.' && !(label.head?.any isMark)

/-- The longest label that is written in Punycode. -/
def maxEncoded : Nat := 1000

/-- The longest label that is read as Punycode. -/
def maxDecoded : Nat := 2000

/-- A label of a domain name. -/
structure Label where
  shown : List Char
  ascii : List Char
  deriving DecidableEq, Repr

/-- The label that a mapped text stands for, as far as it can be judged without its neighbours. -/
def Label.ofMapped? (text : List Char) : Option Label :=
  if text.any forbidden then none
  else if marker.isPrefixOf text then
    match Punycode.decode (text.drop 4) with
    | some decoded =>
        if text.length ≤ maxDecoded + 4 ∧ validDecoded decoded ∧
            Punycode.encode decoded = text.drop 4 then some ⟨decoded, text⟩
        else none
    | none => none
  else if isAscii text then some ⟨text, text⟩
  else if text.length > maxEncoded ∨ text.head?.any isMark then none
  else some ⟨text, marker ++ Punycode.encode text⟩

/-- The label of a mapped text, with joiners only where they are allowed. -/
def label? (text : List Char) : Option Label :=
  (Label.ofMapped? text).filter fun l => Joining.admits l.shown

/-- The labels of a mapped name. -/
def labels? (name : List Char) : Option (List Label) :=
  ((splitWhere (· == '.') name).mapM label?).filter fun labels =>
    Direction.admits (labels.map (·.shown))

/-- The ASCII form of the name that these bytes hold in UTF-8. -/
def toAscii (bytes : List UInt8) : Except Error (List Char) :=
  match (mapped? (decodeUtf8 bytes)).bind labels? with
  | some labels => .ok (['.'].intercalate (labels.map (·.ascii)))
  | none => .error .invalidDomain

end LicenseChooser.Url.Domain
