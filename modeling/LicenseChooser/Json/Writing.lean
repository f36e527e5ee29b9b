import LicenseChooser.Answers.Basic
import LicenseChooser.License.Summary
import LicenseChooser.Text.Numeral

/-!
JSON as it is written: compact, or indented by two blanks with one item on a line.
-/

namespace LicenseChooser.Json

open Text

/-- The written form of a character in a string. Control characters have short forms or are written
as their number; nothing else outside ASCII or in it is. -/
def escapeChar (c : Char) : List Char :=
  if c = '"' then ['\\', '"']
  else if c = '\\' then ['\\', '\\']
  else if c = '\n' then ['\\', 'n']
  else if c = '\r' then ['\\', 'r']
  else if c = '\t' then ['\\', 't']
  else if c = '\x08' then ['\\', 'b']
  else if c = '\x0c' then ['\\', 'f']
  else if c.toNat < 0x20 then
    ['\\', 'u', '0', '0', lowerHexDigit (c.toNat / 16), lowerHexDigit (c.toNat % 16)]
  else [c]

def writeText (s : String) : List Char := '"' :: s.toList.flatMap escapeChar ++ ['"']

/-- An object with these members, on one line without blanks. -/
def writePairs (pairs : List (String × String)) : List Char :=
  '\x7b' :: [','].intercalate (pairs.map fun p => writeText p.1 ++ ':' :: writeText p.2) ++
    ['\x7d']

def lineBreak (depth : Nat) : List Char := '\n' :: List.replicate (2 * depth) ' '

/-- Items between brackets, each on its own line; nothing stands between the brackets without any. -/
def bracket (opening closing : Char) (depth : Nat) (items : List (List Char)) : List Char :=
  if items.isEmpty then [opening, closing]
  else
    opening :: [','].intercalate (items.map (lineBreak (depth + 1) ++ ·)) ++ lineBreak depth ++
      [closing]

def array (depth : Nat) (items : List (Nat → List Char)) : List Char :=
  bracket '[' ']' depth (items.map fun item => item (depth + 1))

def object (depth : Nat) (members : List (String × (Nat → List Char))) : List Char :=
  bracket '\x7b' '\x7d' depth
    (members.map fun m => writeText m.1 ++ ':' :: ' ' :: m.2 (depth + 1))

def textAt (s : String) : Nat → List Char := fun _ => writeText s

def writeChoice (c : Choice) (depth : Nat) : List Char :=
  object depth [("id", textAt c.id), ("label", textAt c.label),
    ("description", textAt c.description)]

def writeQuestion (q : Question) (depth : Nat) : List Char :=
  object depth [("id", textAt q.id), ("label", textAt q.label),
    ("description", textAt q.description),
    ("options", fun d => array d (q.choices.map writeChoice))]

def writeLicenseClass (l : LicenseClass) (depth : Nat) : List Char :=
  object depth [("id", textAt l.id), ("label", textAt l.label),
    ("fields", fun d => array d (l.questions.map writeQuestion))]

def writeCatalog (c : Catalog) (depth : Nat) : List Char :=
  object depth [("licenses", fun d => array d (c.licenses.map writeLicenseClass)),
    ("failed", fun d => array d (c.failed.map textAt))]

end LicenseChooser.Json

namespace LicenseChooser

def Answers.toJson (a : Answers) : String := String.ofList (Json.writePairs a.items)

def LicenseClass.toJson (l : LicenseClass) : String := String.ofList (Json.writeLicenseClass l 0)

def Catalog.toJson (c : Catalog) : String := String.ofList (Json.writeCatalog c 0)

end LicenseChooser
