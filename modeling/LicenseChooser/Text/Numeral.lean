/-!
Numerals in bases up to sixteen: the value of a digit, and the digits of a value.
-/

namespace LicenseChooser.Text

/-- The value of a digit in `base`; letters of either case stand for ten and above. -/
def digitValue? (base : Nat) (c : Char) : Option Nat :=
  let value :=
    if '0' ≤ c ∧ c ≤ '9' then c.toNat - '0'.toNat
    else if 'a' ≤ c ∧ c ≤ 'f' then c.toNat - 'a'.toNat + 10
    else if 'A' ≤ c ∧ c ≤ 'F' then c.toNat - 'A'.toNat + 10
    else 16
  if value < base then some value else none

def isDigit (base : Nat) (c : Char) : Bool := (digitValue? base c).isSome

/-- The value of a digit sequence, unless one of its characters is no digit. -/
def numeralValue? (base : Nat) (cs : List Char) : Option Nat :=
  cs.foldl (fun value c => do return (← value) * base + (← digitValue? base c)) (some 0)

/-- A half-byte as an upper-case hexadecimal digit. -/
def upperHexDigit (n : Nat) : Char :=
  if n < 10 then Char.ofNat (n + '0'.toNat) else Char.ofNat (n - 10 + 'A'.toNat)

/-- A half-byte as a lower-case hexadecimal digit. -/
def lowerHexDigit (n : Nat) : Char :=
  if n < 10 then Char.ofNat (n + '0'.toNat) else Char.ofNat (n - 10 + 'a'.toNat)

end LicenseChooser.Text
