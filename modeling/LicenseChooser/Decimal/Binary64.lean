/-!
Double-precision numbers as an integer times a power of two, and rounding to them. All arithmetic is
exact up to the one rounding that an operation ends with: to nearest, ties to even.
-/

namespace LicenseChooser.Decimal

/-- A finite number that is not negative: `mantissa * 2 ^ exponent`. -/
structure Binary64 where
  mantissa : Nat
  exponent : Int
  deriving DecidableEq, Repr

/-- The least exponent of a double. -/
def minExponent : Int := -1074

/-- The least mantissa with 53 binary digits. -/
def leastFull : Nat := 4503599627370496

/-- The quotient, rounded to nearest with ties to even. -/
def divideToNearest (numerator denominator : Nat) : Nat :=
  let q := numerator / denominator
  let r := numerator % denominator
  if 2 * r < denominator ∨ (2 * r = denominator ∧ q % 2 = 0) then q else q + 1

/-- `numerator / denominator / 2 ^ exponent`, rounded. -/
def scaledQuotient (numerator denominator : Nat) (exponent : Int) : Nat :=
  divideToNearest (numerator * Nat.pow 2 (-exponent).toNat) (denominator * Nat.pow 2 exponent.toNat)

/-- Whether the quotient has at least 53 binary digits before the point at this exponent. -/
def fills (numerator denominator : Nat) (exponent : Int) : Bool :=
  denominator * Nat.pow 2 exponent.toNat * leastFull ≤ numerator * Nat.pow 2 (-exponent).toNat

namespace Binary64

/-- The double nearest to a quotient, unless it is past the largest one. -/
def ofRatio? (numerator denominator : Nat) : Option Binary64 :=
  if numerator = 0 then some ⟨0, minExponent⟩
  else
    let estimate : Int := (numerator.log2 : Int) - denominator.log2 - 52
    let exponent := max minExponent (if fills numerator denominator estimate then estimate else estimate - 1)
    let mantissa := scaledQuotient numerator denominator exponent
    if exponent ≥ 972 ∨ (exponent = 971 ∧ mantissa ≥ 2 * leastFull) then none
    else if mantissa = 2 * leastFull then some ⟨leastFull, exponent + 1⟩
    else some ⟨mantissa, exponent⟩

/-- The value as a quotient. -/
def numerator (b : Binary64) : Nat := b.mantissa * Nat.pow 2 b.exponent.toNat

def denominator (b : Binary64) : Nat := Nat.pow 2 (-b.exponent).toNat

/-- The double nearest to a decimal numeral `digits * 10 ^ exponent`. -/
def ofDecimal? (digits : Nat) (exponent : Int) : Option Binary64 :=
  ofRatio? (digits * Nat.pow 10 exponent.toNat) (Nat.pow 10 (-exponent).toNat)

def mul? (a b : Binary64) : Option Binary64 :=
  ofRatio? (a.numerator * b.numerator) (a.denominator * b.denominator)

def div? (a b : Binary64) : Option Binary64 :=
  ofRatio? (a.numerator * b.denominator) (a.denominator * b.numerator)

end Binary64

end LicenseChooser.Decimal
