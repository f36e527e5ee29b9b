import LicenseChooser.Decimal.Shortest
import LicenseChooser.Json.Token
import LicenseChooser.Shape

/-!
The value of a JSON number. A whole number that fits into 64 bits is kept exactly. Of any other the
leading digits that fit are taken and scaled by its power of ten, each step rounded to a double; past
the largest double a number has no value.
-/

namespace LicenseChooser.Json

open Decimal Text

/-- The largest significand. -/
def maxSignificand : Nat := 0xFFFFFFFFFFFFFFFF

/-- Adds digits before the point; from the first one on that does not fit they only count. -/
def addWhole (significand : Nat) : List Char → Nat × Nat
  | [] => (significand, 0)
  | c :: rest =>
      let next := significand * 10 + (digitValue? 10 c).getD 0
      if next ≤ maxSignificand then addWhole next rest else (significand, rest.length + 1)

/-- Adds digits after the point up to the first one that does not fit; the rest are dropped. -/
def addFraction (significand : Nat) : List Char → Nat × Nat
  | [] => (significand, 0)
  | c :: rest =>
      let next := significand * 10 + (digitValue? 10 c).getD 0
      if next ≤ maxSignificand then
        let (last, count) := addFraction next rest
        (last, count + 1)
      else (significand, 0)

def powerOfTen? (n : Nat) : Option Binary64 := Binary64.ofDecimal? 1 n

/-- The largest power of ten that is a double. -/
def maxPower : Nat := 308

/-- Divides by `divisor` as often as said; zero stays as it is. -/
def divideRepeatedly (divisor : Binary64) : Nat → Binary64 → Option Binary64
  | 0, b => some b
  | k + 1, b =>
      if b.mantissa = 0 then some b
      else (b.div? divisor).bind (divideRepeatedly divisor k)

/-- Divides by a power of ten, at most by the largest one at a time. -/
def scaleDown (b : Binary64) (n : Nat) : Option Binary64 := do
  let steps := (n - 1) / maxPower
  let q ← divideRepeatedly (← powerOfTen? maxPower) steps b
  q.div? (← powerOfTen? (n - steps * maxPower))

def scale (b : Binary64) (exponent : Int) : Option Binary64 :=
  if exponent < 0 then scaleDown b (-exponent).toNat
  else if exponent ≤ maxPower then (powerOfTen? exponent.toNat).bind b.mul?
  else if b.mantissa = 0 then some b
  else none

/-- The power of ten that an exponent stands for. -/
def exponentValue : Option (Bool × List Char) → Int
  | none => 0
  | some (negative, digits) =>
      let n : Nat := (numeralValue? 10 digits).getD 0
      if negative then -(n : Int) else n

/-- Numbers from 0.00001 up to sixteen places before the point are reported without an exponent, and a
tie goes to the even digit. -/
def numberStyle : Style := ⟨.toEven, fun exponent => -5 ≤ exponent && exponent ≤ 15⟩

/-- What a number is, unless it is too large. -/
def Number.found? (n : Number) : Option Found :=
  let (whole, dropped) := addWhole 0 n.whole
  let isWhole := n.fraction.isEmpty && n.exponent.isNone && dropped == 0
  if isWhole && !n.negative then some (.integer whole)
  else if isWhole && whole != 0 && whole ≤ 0x8000000000000000 then some (.integer (-(whole : Int)))
  else
    let (significand, places) := addFraction whole n.fraction
    let exponent : Int := dropped - places + exponentValue n.exponent
    ((Binary64.ofRatio? significand 1).bind (scale · exponent)).map fun b =>
      .real ((if n.negative then "-" else "") ++ String.ofList (numberStyle.text b))

end LicenseChooser.Json
