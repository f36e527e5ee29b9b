import LicenseChooser.Toml.Text

/-!
Dates and times. Nothing is kept of them but that they are written as they should be: a date exists
in its month, and seconds may be leap seconds. Four digits and a hyphen begin a date, an hour and a
colon begin a time; from there on a text is nothing else.
-/

namespace LicenseChooser.Toml

open Text

/-- The value of as many digits as said, and what follows them. -/
def digits? (count : Nat) (cs : List Char) : Option (Nat × List Char) :=
  let digits := cs.take count
  if digits.length = count ∧ digits.all Char.isDigit then
    (numeralValue? 10 digits).map (·, cs.drop count)
  else none

/-- Two digits whose value is in a range. -/
def pair (low high : Nat) (cs : List Char) : Reading Nat :=
  match digits? 2 cs with
  | some (n, rest) =>
      if low ≤ n ∧ n ≤ high then .ok (n, rest) else .error (.caused cs .outOfRange)
  | none => .error (.bare cs)

/-- What follows a given character. -/
def sign (c : Char) : List Char → Except Fault (List Char)
  | [] => .error (.bare [])
  | d :: rest => if d = c then .ok rest else .error (.bare (d :: rest))

def isLeap (year : Nat) : Bool := year % 4 == 0 && (year % 100 != 0 || year % 400 == 0)

def daysIn (year month : Nat) : Nat :=
  if month = 2 then if isLeap year then 29 else 28
  else if month = 4 ∨ month = 6 ∨ month = 9 ∨ month = 11 then 30
  else 31

/-- What follows the month and the day of a year. -/
def monthAndDay (year : Nat) (cs : List Char) : Except Fault (List Char) := do
  let (month, rest) ← pair 1 12 cs
  let dayText ← sign '-' rest
  let (day, rest) ← pair 1 31 dayText
  if daysIn year month < day then throw (.caused dayText .outOfRange) else return rest

/-- What follows the fraction of a second; without digits there is none. -/
def secondFraction (cs : List Char) : List Char :=
  match cs with
  | '.' :: d :: rest => if d.isDigit then rest.dropWhile Char.isDigit else cs
  | _ => cs

/-- What follows an hour and its colon. -/
def hour? (cs : List Char) : Option (List Char) :=
  match digits? 2 cs with
  | some (n, ':' :: rest) => if n < 24 then some rest else none
  | _ => none

/-- What follows minutes and seconds. -/
def minutesAndSeconds (cs : List Char) : Except Fault (List Char) := do
  let (_, rest) ← pair 0 59 cs
  let (_, rest) ← pair 0 60 (← sign ':' rest)
  return secondFraction rest

/-- What follows hours and minutes. -/
def hoursAndMinutes (cs : List Char) : Except Fault (List Char) := do
  let (_, rest) ← pair 0 23 cs
  let (_, rest) ← pair 0 59 (← sign ':' rest)
  return rest

/-- What follows the distance from universal time, if there is one. -/
def offset (cs : List Char) : Except Fault (List Char) :=
  match cs with
  | [] => .ok []
  | c :: rest =>
      if c = 'Z' ∨ c = 'z' then .ok rest
      else if c = '+' ∨ c = '-' then (hoursAndMinutes rest).mapError (·.inside "time offset")
      else .ok cs

/-- What follows the time of a date, if there is one. -/
def timeOfDate (cs : List Char) : Except Fault (List Char) :=
  match cs with
  | [] => .ok []
  | c :: rest =>
      match if c = 'T' ∨ c = 't' ∨ c = ' ' then hour? rest else none with
      | some after => do offset (← minutesAndSeconds after)
      | none => .ok cs

/-- What follows a date after its year, with the time if there is one. -/
def dateAfterYear (year : Nat) (cs : List Char) : Except Fault (List Char) := do
  timeOfDate (← monthAndDay year cs)

/-- What follows a date, a time of day, or both, if one begins. -/
def moment (cs : List Char) : Except Fault (Option (List Char)) :=
  match digits? 4 cs with
  | some (year, '-' :: rest) =>
      ((dateAfterYear year rest).map some).mapError (·.inside "date-time")
  | _ =>
      match hour? cs with
      | some rest => ((minutesAndSeconds rest).map some).mapError (·.inside "time")
      | none => .ok none

end LicenseChooser.Toml
