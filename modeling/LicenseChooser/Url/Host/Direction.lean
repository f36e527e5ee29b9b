import LicenseChooser.Text.Table
import LicenseChooser.Url.Host.DirectionData

/-!
The direction rule of domain names. As soon as one letter of a name is written from the right, each
label of the name has to begin with a letter, keep to the direction of that letter, and end so that
it can be told from its neighbours when the name is shown.
-/

namespace LicenseChooser.Url.Direction

open Text

inductive Class where
  | left
  | right
  | arabicNumber
  | europeanNumber
  | neutral
  | mark
  deriving DecidableEq, Repr

def rightRanges : List (List Nat) := readTable rightData

def arabicNumberRanges : List (List Nat) := readTable arabicNumberData

def europeanNumberRanges : List (List Nat) := readTable europeanNumberData

def markRanges : List (List Nat) := readTable markData

def neutralRanges : List (List Nat) := readTable neutralData

/-- The class of a character that a mapped name can hold. -/
def classOf (c : Char) : Class :=
  let n := c.toNat
  if n < 0x80 then
    if c.isAlpha then .left else if c.isDigit then .europeanNumber else .neutral
  else if inRanges rightRanges n then .right
  else if inRanges arabicNumberRanges n then .arabicNumber
  else if inRanges europeanNumberRanges n then .europeanNumber
  else if inRanges markRanges n then .mark
  else if inRanges neutralRanges n then .neutral
  else .left

/-- Whether a character puts its name under the rule. -/
def isFromRight (c : Char) : Bool := [.right, .arabicNumber].contains (classOf c)

/-- The class that a label ends with, marks left aside. -/
def lastClass? (classes : List Class) : Option Class := classes.reverse.find? (· != .mark)

/-- Whether a label keeps to one direction. -/
def isOneWay (label : List Char) : Bool :=
  let classes := label.map classOf
  match classes.head? with
  | none => true
  | some .left =>
      !classes.contains .right && !classes.contains .arabicNumber &&
        (lastClass? classes).any fun k => [.left, .europeanNumber].contains k
  | some .right =>
      !classes.contains .left && !(classes.contains .arabicNumber && classes.contains .europeanNumber) &&
        (lastClass? classes).any fun k => [.right, .arabicNumber, .europeanNumber].contains k
  | some _ => false

/-- Whether the labels may form one name. -/
def admits (labels : List (List Char)) : Bool :=
  !labels.any (·.any isFromRight) || labels.all isOneWay

end LicenseChooser.Url.Direction
