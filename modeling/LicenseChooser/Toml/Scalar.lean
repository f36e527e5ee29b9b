import LicenseChooser.Toml.Moment
import LicenseChooser.Toml.Value

/-!
Values that are no array and no table: strings, truth values, numbers, dates and times. What a value
is shows at its first characters, and as much is read as belongs to it. An integer has 64 bits; a
number with a point may be too large only on the negative side.
-/

namespace LicenseChooser.Toml

open Text Decimal

def aDigit : String := "digit"

/-- The digits after the first one. A sign that groups them stands between two. -/
def moreDigits (base : Nat) : List Char → Reading (List Char)
  | [] => .ok ([], [])
  | '_' :: d :: rest =>
      if isDigit base d then (moreDigits base rest).map (prepend d)
      else .error ((Fault.bare (d :: rest)).expecting aDigit)
  | ['_'] => .error ((Fault.bare []).expecting aDigit)
  | d :: rest => if isDigit base d then (moreDigits base rest).map (prepend d) else .ok ([], d :: rest)

/-- At least one digit. -/
def digitRun (base : Nat) : List Char → Reading (List Char)
  | [] => .error (.bare [])
  | d :: rest =>
      if isDigit base d then (moreDigits base rest).map (prepend d) else .error (.bare (d :: rest))

/-- A whole number. One that begins with zero is zero. -/
def wholeDigits (cs : List Char) : Reading (List Char) :=
  match cs with
  | '0' :: rest => .ok (['0'], rest)
  | _ => (digitRun 10 cs).mapError (·.inside "integer")

/-- The sign of a number, and the number without it. -/
def splitSign : List Char → Bool × List Char
  | '-' :: rest => (true, rest)
  | '+' :: rest => (false, rest)
  | cs => (false, cs)

def signed (negative : Bool) (n : Nat) : Int := if negative then -(n : Int) else n

/-- The integer that digits stand for, which were read from `cs`. -/
def integerOf (base : Nat) (negative : Bool) (digits cs : List Char) : Except Fault Scalar :=
  let n := signed negative ((numeralValue? base digits).getD 0)
  if 0x8000000000000000 ≤ n then .error (.caused cs .tooLarge)
  else if n < -0x8000000000000000 then .error (.caused cs .tooSmall)
  else .ok (.integer n)

/-- An integer in a base that is named before its digits. -/
def basedInteger (base : Nat) (label : String) (cs : List Char) : Except Fault (Scalar × List Char) := do
  let (digits, rest) ← (digitRun base (cs.drop 2)).mapError (·.inside label)
  return (← integerOf base false digits cs, rest)

/-- The parts of a number with a point or an exponent. -/
structure Scientific where
  negative : Bool
  digits : List Char
  exponent : Int

/-- No double reaches this power of ten, nor its inverse. -/
def farPower : Nat := 400

/-- The double nearest to a number; an infinite one past the largest. -/
def Scientific.value (d : Scientific) : Floating :=
  let n := (numeralValue? 10 d.digits).getD 0
  if n = 0 ∨ d.digits.length + d.exponent < -farPower then .finite d.negative ⟨0, minExponent⟩
  else if farPower < d.exponent then .infinite d.negative
  else
    match Binary64.ofDecimal? n d.exponent with
    | some b => .finite d.negative b
    | none => .infinite d.negative

/-- The power of ten that an exponent names. Without an exponent it is zero. -/
def powerOfTen (cs : List Char) : Except Fault (Int × List Char) :=
  match cs with
  | [] => .ok (0, [])
  | c :: rest =>
      if c = 'e' ∨ c = 'E' then do
        let (negative, body) := splitSign rest
        let (digits, after) ← digitRun 10 body
        return (signed negative ((numeralValue? 10 digits).getD 0), after)
      else .ok (0, cs)

def realLabel : String := "floating-point number"

/-- The real number with these digits before the point or exponent, which follows. -/
def realAfter (negative : Bool) (whole cs start : List Char) : Reading Scalar :=
  let read : Except Fault (Scalar × List Char) := do
    let (fraction, rest) ← match cs with
      | '.' :: rest => (digitRun 10 rest).mapError (·.expecting aDigit)
      | _ => .ok ([], cs)
    let (power, rest) ← powerOfTen rest
    let x := Scientific.value ⟨negative, whole ++ fraction, power - fraction.length⟩
    if x = .infinite false then throw (.bare start) else return (.real x, rest)
  read.mapError (·.inside realLabel)

/-- Whether a number goes on with a point or an exponent. -/
def isReal : List Char → Bool
  | [] => false
  | c :: _ => c == '.' || c == 'e' || c == 'E'

/-- A number in base ten, from its sign or first digit on. -/
def decimal (cs : List Char) : Except Fault (Scalar × List Char) := do
  let (negative, body) := splitSign cs
  let (whole, rest) ← wholeDigits body
  if isReal rest then realAfter negative whole rest cs
  else return (← integerOf 10 negative whole cs, rest)

/-- The words that stand for real numbers. -/
def realWord? (negative : Bool) : List Char → Option (Scalar × List Char)
  | 'i' :: 'n' :: 'f' :: rest => some (.real (.infinite negative), rest)
  | 'n' :: 'a' :: 'n' :: rest => some (.real .notANumber, rest)
  | _ => none

/-- A date, a time or a number, from its sign or first digit on. -/
def numeric (cs : List Char) : Except Fault (Scalar × List Char) := do
  match ← moment cs with
  | some rest => return (.moment, rest)
  | none =>
      match cs with
      | '0' :: 'x' :: _ => basedInteger 16 "hexadecimal integer" cs
      | '0' :: 'o' :: _ => basedInteger 8 "octal integer" cs
      | '0' :: 'b' :: _ => basedInteger 2 "binary integer" cs
      | _ =>
          match realWord? (splitSign cs).1 (splitSign cs).2 with
          | some read => return read
          | none => decimal cs

/-- What begins no value is reported as a string without its quotes. -/
def noValue (cs : List Char) : Fault := .labelled cs "string" ["`\"`", "`'`"]

/-- A given word with its value. -/
def word (name : List Char) (value : Scalar) (cs : List Char) : Reading Scalar :=
  if name.isPrefixOf cs then .ok (value, cs.drop name.length) else .error (noValue cs)

def leadingDigit : String := "leading digit"

def scalar (cs : List Char) : Reading Scalar :=
  match cs with
  | [] => .error (.bare [])
  | c :: _ =>
      if c = '"' ∨ c = '\'' then (text cs).map fun (s, rest) => (.text s, rest)
      else if c = 't' then word ['t', 'r', 'u', 'e'] (.boolean true) cs
      else if c = 'f' then word ['f', 'a', 'l', 's', 'e'] (.boolean false) cs
      else if c = '_' then .error (.labelled cs "integer" [leadingDigit])
      else if c = '.' then .error (.labelled cs realLabel [leadingDigit])
      else if c = '+' ∨ c = '-' ∨ c.isDigit then numeric cs
      else
        match realWord? false cs with
        | some read => .ok read
        | none => .error (noValue cs)

/-- Whether a value begins, be it well written or not. -/
def beginsValue (cs : List Char) : Bool :=
  match cs with
  | [] => false
  | c :: rest =>
      ['"', '\'', '[', '\x7b', 't', 'f'].contains c || c.isDigit ||
        (realWord? false cs).isSome ||
        ((c == '+' || c == '-') && ((realWord? false rest).isSome || rest.head?.any Char.isDigit))

end LicenseChooser.Toml
