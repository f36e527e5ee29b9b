import LicenseChooser.Text.Numeral
import LicenseChooser.Text.Scan
import LicenseChooser.Url.Error

/-!
IPv6 addresses: eight pieces of sixteen bits, one run of which may be left out; the last two may be
written as an IPv4 address. They are printed with the first of the longest runs of zeros left out.
-/

namespace LicenseChooser.Url.Ipv6

open Text

/-- A piece of one to four hexadecimal digits. -/
def piece? (cs : List Char) : Option Nat :=
  if cs.isEmpty ∨ cs.length > 4 then none else numeralValue? 16 cs

/-- A decimal byte without leading zeros. -/
def byte? (cs : List Char) : Option Nat :=
  if cs.isEmpty ∨ (cs.head? = some '0' ∧ cs.length > 1) then none
  else (numeralValue? 10 cs).filter (· ≤ 255)

/-- The two pieces of an IPv4 address in dotted form. -/
def dotted? (cs : List Char) : Option (List Nat) :=
  match (splitWhere (· == '.') cs).mapM byte? with
  | some [a, b, c, d] => some [a * 256 + b, c * 256 + d]
  | _ => none

/-- The pieces of a text without a gap. Only the last part may be dotted, and only with
`dottedEnd`. -/
def pieces? (dottedEnd : Bool) : List (List Char) → Option (List Nat)
  | [] => some []
  | [last] =>
      if dottedEnd && last.contains '.' then dotted? last else (piece? last).map fun n => [n]
  | part :: rest => do return (← piece? part) :: (← pieces? dottedEnd rest)

/-- The pieces on one side of a gap, which may be none. -/
def side? (dottedEnd : Bool) (cs : List Char) : Option (List Nat) :=
  if cs.isEmpty then some [] else pieces? dottedEnd (splitWhere (· == ':') cs)

/-- The pieces of an address between its brackets. A gap stands for at least one piece. -/
def read? (cs : List Char) : Option (List Nat) :=
  match breakOn [':', ':'] cs with
  | none => (pieces? true (splitWhere (· == ':') cs)).filter (·.length = 8)
  | some (before, after) => do
      let left ← side? false before
      let right ← side? true after
      if left.length + right.length > 7 then none
      else return left ++ List.replicate (8 - left.length - right.length) 0 ++ right

def parse (cs : List Char) : Except Error (List Nat) :=
  match read? cs with
  | some pieces => .ok pieces
  | none => .error .invalidIpv6

/-- The lower-case hexadecimal digits of a piece. -/
def hex (n : Nat) : List Char := Nat.toDigits 16 n

/-- The number of zeros at the start. -/
def leadingZeros (pieces : List Nat) : Nat := (pieces.takeWhile (· == 0)).length

/-- Where the longest run of at least two zeros begins, and its length; of equal runs the first. -/
def longestRun (pieces : List Nat) : Nat × Nat :=
  (List.range pieces.length).foldl (fun best i =>
    let run := leadingZeros (pieces.drop i)
    if run ≥ 2 ∧ run > best.2 then (i, run) else best) (0, 0)

def printPieces (pieces : List Nat) : List Char := [':'].intercalate (pieces.map hex)

def print (pieces : List Nat) : String :=
  let (start, length) := longestRun pieces
  let inside :=
    if length = 0 then printPieces pieces
    else printPieces (pieces.take start) ++ [':', ':'] ++ printPieces (pieces.drop (start + length))
  String.ofList ('[' :: inside ++ [']'])

end LicenseChooser.Url.Ipv6
