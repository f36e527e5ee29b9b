import LicenseChooser.Decimal.Binary64

/-!
The fewest decimal digits that read back as a given double, and of those the nearest ones. They are
found by trying the two neighbours of the value on decimal grids, from the coarsest to the finest. A
style says what the digits leave open: which of two equally near numerals is taken, and when the text
has an exponent.
-/

namespace LicenseChooser.Decimal

/-- `digits * 10 ^ exponent`. -/
structure Numeral where
  digits : Nat
  exponent : Int
  deriving DecidableEq, Repr

/-- A numeral as a quotient. -/
def Numeral.numerator (n : Numeral) : Nat := n.digits * Nat.pow 10 n.exponent.toNat

def Numeral.denominator (n : Numeral) : Nat := Nat.pow 10 (-n.exponent).toNat

/-- The greatest `k` with `10 ^ k` at most the quotient. -/
def decimalExponent (numerator denominator : Nat) : Int :=
  if denominator ≤ numerator then
    (Nat.toDigits 10 (numerator / denominator)).length - 1
  else
    -((Nat.toDigits 10 ((denominator - 1) / numerator)).length : Int)

/-- Whether a numeral reads back as `b`. -/
def Numeral.readsAs (n : Numeral) (b : Binary64) : Bool :=
  Binary64.ofDecimal? n.digits n.exponent == some b

/-- The distance of a numeral from the value of `b`, in units that are the same for all numerals of
one exponent. -/
def Numeral.distance (n : Numeral) (b : Binary64) : Nat :=
  let x := n.numerator * b.denominator
  let y := b.numerator * n.denominator
  (x - y) + (y - x)

/-- Which of two neighbours is taken when both are equally near. -/
inductive Tie where
  | toEven
  | up
  deriving DecidableEq, Repr

def Tie.prefersLow (tie : Tie) (low : Numeral) : Bool :=
  match tie with
  | .toEven => low.digits % 2 = 0
  | .up => false

/-- The nearest numeral of this exponent that reads back as `b`. -/
def onGrid? (tie : Tie) (b : Binary64) (exponent : Int) : Option Numeral :=
  let below := b.numerator * Nat.pow 10 (-exponent).toNat / (b.denominator * Nat.pow 10 exponent.toNat)
  let low : Numeral := ⟨below, exponent⟩
  let high : Numeral := ⟨below + 1, exponent⟩
  match low.readsAs b, high.readsAs b with
  | true, true =>
      let toLow := low.distance b
      let toHigh := high.distance b
      some (if toLow < toHigh ∨ (toLow = toHigh ∧ tie.prefersLow low) then low else high)
  | true, false => some low
  | false, true => some high
  | false, false => none

/-- The same numeral without zeros at its end. -/
def Numeral.reduce (digits : Nat) (exponent : Int) : Numeral :=
  if _h : digits ≠ 0 ∧ digits % 10 = 0 then reduce (digits / 10) (exponent + 1)
  else ⟨digits, exponent⟩
  termination_by digits
  decreasing_by omega

/-- The shortest numeral of a value that is not zero; seventeen digits always suffice. -/
def shortest (tie : Tie) (b : Binary64) : Numeral :=
  let top := decimalExponent b.numerator b.denominator
  match (List.range 17).findSome? fun (i : Nat) => onGrid? tie b (top - (i : Int)) with
  | some n => .reduce n.digits n.exponent
  | none => ⟨0, 0⟩

/-- A numeral written without an exponent, with at least one digit after the point. -/
def Numeral.positional (n : Numeral) : List Char :=
  let digits := Nat.toDigits 10 n.digits
  if 0 ≤ n.exponent then digits ++ List.replicate n.exponent.toNat '0' ++ ['.', '0']
  else
    let places := (-n.exponent).toNat
    let padded := List.replicate (places + 1 - digits.length) '0' ++ digits
    padded.take (padded.length - places) ++ '.' :: padded.drop (padded.length - places)

/-- A numeral written with one digit before the point and a signed exponent. -/
def Numeral.scientific (n : Numeral) : List Char :=
  let digits := Nat.toDigits 10 n.digits
  let exponent := n.exponent + digits.length - 1
  let leading :=
    match digits with
    | d :: e :: rest => d :: '.' :: e :: rest
    | ds => ds
  leading ++ 'e' :: (if exponent < 0 then '-' else '+') :: Nat.toDigits 10 exponent.natAbs

/-- How doubles are written: how ties are broken, and for which exponents of the first digit the text
has no exponent of its own. -/
structure Style where
  tie : Tie
  isPlain : Int → Bool

/-- The shortest text of a double. -/
def Style.text (style : Style) (b : Binary64) : List Char :=
  if b.mantissa = 0 then ['0', '.', '0']
  else
    let n := shortest style.tie b
    if style.isPlain (n.exponent + (Nat.toDigits 10 n.digits).length - 1) then n.positional
    else n.scientific

end LicenseChooser.Decimal
