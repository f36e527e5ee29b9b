import LicenseChooser.Text.QuotedData
import LicenseChooser.Text.Table

/-!
Texts in double quotes, on one line and with nothing invisible: what cannot be seen is written as its
number.
-/

namespace LicenseChooser.Text

def unprintable : List (List Nat) := readTable unprintableData

def extending : List (List Nat) := readTable extendingData

/-- A character that is written as its number. -/
def isInvisible (c : Char) : Bool :=
  c != ' ' && (inRanges unprintable c.toNat || inRanges extending c.toNat)

def quoteChar (c : Char) : List Char :=
  if c = '"' then ['\\', '"']
  else if c = '\\' then ['\\', '\\']
  else if c = '\n' then ['\\', 'n']
  else if c = '\r' then ['\\', 'r']
  else if c = '\t' then ['\\', 't']
  else if c = '\x00' then ['\\', '0']
  else if 0x20 ≤ c.toNat ∧ c.toNat < 0x7F then [c]
  else if isInvisible c then ['\\', 'u', '\x7b'] ++ Nat.toDigits 16 c.toNat ++ ['\x7d']
  else [c]

def quote (s : String) : String := String.ofList ('"' :: s.toList.flatMap quoteChar ++ ['"'])

end LicenseChooser.Text
