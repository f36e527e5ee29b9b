import LicenseChooser.Text.Composition
import LicenseChooser.Url.Host.JoiningData

/-!
The two joiners, which are not shown themselves and may stand only where they change how their
neighbours look: after a sign that takes the vowel from a consonant, and the non-joiner also between
two letters that would join.
-/

namespace LicenseChooser.Url.Joining

open Text

def transparentRanges : List (List Nat) := readTable transparentData

def dualRanges : List (List Nat) := readTable dualData

def onwardRanges : List (List Nat) := readTable onwardData

def backwardRanges : List (List Nat) := readTable backwardData

def nonJoiner : Char := '\u200c'

def joiner : Char := '\u200d'

/-- A sign that takes the vowel from the consonant before it. -/
def isVirama (c : Char) : Bool := combiningClass c.toNat == 9

/-- The first character that letters do not join across. -/
def opaque? (cs : List Char) : Option Char :=
  cs.find? fun c => !inRanges transparentRanges c.toNat

def joinsOnward (c : Char) : Bool := inRanges dualRanges c.toNat || inRanges onwardRanges c.toNat

def joinsBackward (c : Char) : Bool := inRanges dualRanges c.toNat || inRanges backwardRanges c.toNat

/-- Whether a joiner may stand between what is before it, nearest first, and what is after it. -/
def fits (c : Char) (before after : List Char) : Bool :=
  before.head?.any isVirama ||
    (c == nonJoiner && (opaque? before).any joinsOnward && (opaque? after).any joinsBackward)

/-- Whether each joiner fits into its place; `before` is what was read, last character first. -/
def admitsAfter (before : List Char) : List Char → Bool
  | [] => true
  | c :: rest =>
      (!(c == nonJoiner || c == joiner) || fits c before rest) && admitsAfter (c :: before) rest

/-- Whether a label has joiners only where they are allowed. -/
def admits (label : List Char) : Bool := admitsAfter [] label

end LicenseChooser.Url.Joining
