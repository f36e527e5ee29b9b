import LicenseChooser.Text.CompositionData
import LicenseChooser.Text.Table

/-!
Unicode normalisation to the composed form: characters are taken apart, combining characters put
into the order of their classes, and then composed from the left.
-/

namespace LicenseChooser.Text

def compositions : List (List Nat) := readTable compositionData

def combiningClasses : List (List Nat) := readTable combiningData

def marks : List (List Nat) := readTable markData

/-- A character of one of the mark categories. -/
def isMark (c : Char) : Bool := inRanges marks c.toNat

/-- The canonical combining class. -/
def combiningClass (n : Nat) : Nat :=
  (combiningClasses.findSome? fun
    | [first, last, k] => if first ≤ n ∧ n ≤ last then some k else none
    | _ => none).getD 0

/-- The two characters that `n` is composed of. A Hangul syllable is composed by arithmetic. -/
def decomposition? (n : Nat) : Option (Nat × Nat) :=
  if 0xAC00 ≤ n ∧ n ≤ 0xD7A3 then
    let index := n - 0xAC00
    if index % 28 = 0 then some (0x1100 + index / 588, 0x1161 + index % 588 / 28)
    else some (n - index % 28, 0x11A7 + index % 28)
  else
    compositions.findSome? fun
      | [c, a, b] => if c = n then some (a, b) else none
      | _ => none

/-- The character composed of two. -/
def composition? (a b : Nat) : Option Nat :=
  if 0x1100 ≤ a ∧ a ≤ 0x1112 ∧ 0x1161 ≤ b ∧ b ≤ 0x1175 then
    some (0xAC00 + ((a - 0x1100) * 21 + (b - 0x1161)) * 28)
  else if 0xAC00 ≤ a ∧ a ≤ 0xD7A3 ∧ (a - 0xAC00) % 28 = 0 ∧ 0x11A8 ≤ b ∧ b ≤ 0x11C2 then
    some (a + (b - 0x11A7))
  else
    compositions.findSome? fun
      | [c, x, y] => if x = a ∧ y = b then some c else none
      | _ => none

/-- Takes `n` apart, and its first part again up to `depth` times; no character needs more than
four. -/
def decompose (depth n : Nat) : List Nat :=
  match depth, decomposition? n with
  | d + 1, some (a, b) => decompose d a ++ [b]
  | _, _ => [n]

/-- Inserts a combining character before those of a higher class that follow. -/
def insertByClass (n : Nat) : List Nat → List Nat
  | [] => [n]
  | m :: rest =>
      if combiningClass n ≠ 0 ∧ combiningClass m ≠ 0 ∧ combiningClass m < combiningClass n then
        m :: insertByClass n rest
      else n :: m :: rest

/-- Sorts each run of combining characters by class and leaves equal classes as they are. -/
def orderByClass (ns : List Nat) : List Nat := ns.foldr insertByClass []

/-- Composes what follows a starter. `between` holds the characters since the starter that did not
combine, last one first; one of them blocks a character of no higher class. -/
def composeAfter (starter : Nat) (between : List Nat) : List Nat → List Nat
  | [] => starter :: between.reverse
  | n :: rest =>
      let blocked := match between with
        | [] => false
        | last :: _ => combiningClass n ≤ combiningClass last
      match if blocked then none else composition? starter n with
      | some c => composeAfter c between rest
      | none =>
          if combiningClass n = 0 then starter :: between.reverse ++ composeAfter n [] rest
          else composeAfter starter (n :: between) rest

def compose (ns : List Nat) : List Nat :=
  let leading := ns.takeWhile (combiningClass · != 0)
  match ns.dropWhile (combiningClass · != 0) with
  | [] => leading
  | starter :: rest => leading ++ composeAfter starter [] rest

/-- The composed normal form. -/
def normalize (cs : List Char) : List Char :=
  (compose (orderByClass (cs.flatMap fun c => decompose 4 c.toNat))).map Char.ofNat

end LicenseChooser.Text
