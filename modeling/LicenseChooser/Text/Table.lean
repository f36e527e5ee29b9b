import LicenseChooser.Text.Numeral
import LicenseChooser.Text.Scan

/-!
Tables of character numbers, written as text: entries are separated by blanks or line breaks,
the hexadecimal numbers of an entry by commas.
-/

namespace LicenseChooser.Text

/-- The entries of a table. A number that is not hexadecimal is dropped. -/
def readTable (data : String) : List (List Nat) :=
  ((splitWhere (fun c => c == ' ' || c == '\n') data.toList).filter (!·.isEmpty)).map fun entry =>
    (splitWhere (· == ',') entry).filterMap (numeralValue? 16)

/-- Whether a table of ranges holds `n`. A range is its first and its last number, or one
number. -/
def inRanges (ranges : List (List Nat)) (n : Nat) : Bool :=
  ranges.any fun
    | [first, last] => first ≤ n && n ≤ last
    | [only] => n == only
    | _ => false

end LicenseChooser.Text
