import LicenseChooser.Text.Composition
import LicenseChooser.Url.Host.MappingData

/-!
The mapping of characters in domain names (UTS #46, non-transitional): letters lose their case,
compatibility characters become what they stand for, some characters are left out and some are not
allowed.
-/

namespace LicenseChooser.Url.Mapping

open Text

def shifted : List (List Nat) := readTable shiftedData

def replaced : List (List Nat) := readTable replacedData

def ignored : List (List Nat) := readTable ignoredData

def disallowed : List (List Nat) := readTable disallowedData

/-- What `n` maps to by the runs. -/
def shift? (n : Nat) : Option Nat :=
  shifted.findSome? fun
    | [first, count, step, target] =>
        if first ≤ n ∧ n < first + count * step ∧ (n - first) % step = 0 then
          some (target + (n - first))
        else none
    | _ => none

/-- What `n` maps to by the single entries. -/
def replace? (n : Nat) : Option (List Char) :=
  replaced.findSome? fun
    | c :: text => if c = n then some (text.map Char.ofNat) else none
    | [] => none

/-- What stands for a character; nothing does for one that is not allowed. -/
def mapChar? (c : Char) : Option (List Char) :=
  if c.toNat < 0x80 then some [c.toLower]
  else if inRanges disallowed c.toNat then none
  else if inRanges ignored c.toNat then some []
  else
    match shift? c.toNat, replace? c.toNat with
    | some n, _ => some [.ofNat n]
    | none, some text => some text
    | none, none => some [c]

end LicenseChooser.Url.Mapping
