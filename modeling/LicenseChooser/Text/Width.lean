import LicenseChooser.Text.QuotedData
import LicenseChooser.Text.Table
import LicenseChooser.Text.WidthData

/-!
How many columns a text takes on a terminal.
-/

namespace LicenseChooser.Text

def wide : List (List Nat) := readTable wideData

def pictures : List (List Nat) := readTable pictureData

/-- Ranges of characters that take no column of their own. -/
def zeroWidth : List (List Nat) :=
  readTable extendingData ++ readTable ignorableData ++
    [[0x1160, 0x11FF], [0xD7B0, 0xD7C6], [0xD7CB, 0xD7FB]]

/-- The columns of one character. A control character takes one. -/
def charWidth (c : Char) : Nat :=
  if c.toNat < 0xA0 then 1
  else if inRanges wide c.toNat then 2
  else if inRanges zeroWidth c.toNat then 0
  else 1

def isSkinTone (c : Char) : Bool := 0x1F3FB ≤ c.toNat && c.toNat ≤ 0x1F3FF

def isPicture (c : Char) : Bool := 0x80 ≤ c.toNat && inRanges pictures c.toNat

/-- Columns from left to right. A skin tone takes none after a picture, nor does a picture that a
joiner joins to the one before; `joined` says how the text before ends. -/
def widthAfter (picture joined : Bool) : List Char → Nat
  | [] => 0
  | c :: rest =>
      if picture && isSkinTone c then widthAfter true false rest
      else if picture && c.toNat == 0x200D then widthAfter true true rest
      else if picture && c.toNat == 0xFE0F then widthAfter true false rest
      else if joined && isPicture c then widthAfter true false rest
      else charWidth c + widthAfter (isPicture c) false rest

def displayWidth (s : String) : Nat := widthAfter false false s.toList

end LicenseChooser.Text
