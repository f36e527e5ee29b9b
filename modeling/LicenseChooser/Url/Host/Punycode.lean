import LicenseChooser.Text.Scan

/-!
Punycode, which writes a label of a domain name in ASCII: the ASCII characters first, then for the
others, in ascending order, how far on the next one is inserted. Distances are numerals in base 36
whose digits have moving thresholds.
-/

namespace LicenseChooser.Url.Punycode

/-- The digit with this value: letters, then decimal digits. -/
def digit (n : Nat) : Char := if n < 26 then .ofNat (n + 97) else .ofNat (n + 22)

def digitValue? (c : Char) : Option Nat :=
  if 'a' ≤ c ∧ c ≤ 'z' then some (c.toNat - 97)
  else if 'A' ≤ c ∧ c ≤ 'Z' then some (c.toNat - 65)
  else if '0' ≤ c ∧ c ≤ '9' then some (c.toNat - 22)
  else none

/-- The least digit that does not end a numeral at this position. -/
def threshold (bias position : Nat) : Nat := min 26 (max 1 (position - bias))

theorem threshold_bounds (bias position : Nat) :
    1 ≤ threshold bias position ∧ threshold bias position ≤ 26 := by
  simp only [threshold]
  omega

/-- The bias for a distance whose scaled value is `delta`, after `position`. -/
def adaptFrom (delta position : Nat) : Nat :=
  if 455 < delta then adaptFrom (delta / 35) (position + 36)
  else position + 36 * delta / (delta + 38)
  termination_by delta
  decreasing_by exact Nat.div_lt_self (by omega) (by omega)

/-- The bias after the distance `delta`, with `count` characters then in place. -/
def adapt (delta count : Nat) (first : Bool) : Nat :=
  let scaled := if first then delta / 700 else delta / 2
  adaptFrom (scaled + scaled / count) 0

/-- The digits of a distance from `position` on. -/
def numeral (bias position value : Nat) : List Char :=
  let t := threshold bias position
  if value < t then [digit value]
  else digit (t + (value - t) % (36 - t)) :: numeral bias (position + 36) ((value - t) / (36 - t))
  termination_by value
  decreasing_by
    have := threshold_bounds bias position
    have := Nat.div_le_self (value - threshold bias position) (36 - threshold bias position)
    omega

/-- What is known while characters are inserted: the distance since the last one, the bias, and
how many are in place. -/
structure State where
  delta : Nat
  bias : Nat
  handled : Nat

/-- Passes over the label and writes a distance for each character with the number `value`. -/
def pass (basic value : Nat) (s : State) : List Nat → List Char × State
  | [] => ([], s)
  | n :: rest =>
      if n = value then
        let next : State :=
          ⟨0, adapt s.delta (s.handled + 1) (s.handled == basic), s.handled + 1⟩
        let (digits, last) := pass basic value next rest
        (numeral s.bias 36 s.delta ++ digits, last)
      else pass basic value (if n < value then { s with delta := s.delta + 1 } else s) rest

/-- The distances of the characters with these numbers, which ascend; `least` is the next number
not yet considered. -/
def passes (label : List Nat) (basic : Nat) (least : Nat) (s : State) : List Nat → List Char
  | [] => []
  | value :: rest =>
      let reached := { s with delta := s.delta + (value - least) * (s.handled + 1) }
      let (digits, last) := pass basic value reached label
      digits ++ passes label basic (value + 1) { last with delta := last.delta + 1 } rest

/-- Adds a number to an ascending list that does not hold it. -/
def insertAscending (n : Nat) : List Nat → List Nat
  | [] => [n]
  | m :: rest =>
      if n < m then n :: m :: rest else if n = m then m :: rest else m :: insertAscending n rest

def encode (label : List Char) : List Char :=
  let basic := label.filter (·.toNat < 0x80)
  let numbers := label.map Char.toNat
  let others := (numbers.filter (0x80 ≤ ·)).foldr insertAscending []
  (if basic.isEmpty then [] else basic ++ ['-']) ++
    passes numbers basic.length 0x80 ⟨0, 72, basic.length⟩ others

/-- The numeral at the start of `cs`, its digits weighed from `weight` on, added to `value`. Values
are 32-bit words. -/
def readNumeral (bias position weight value : Nat) : List Char → Option (Nat × List Char)
  | [] => none
  | c :: rest =>
      match digitValue? c with
      | none => none
      | some d =>
          let t := threshold bias position
          let sum := value + d * weight
          if sum ≥ 0x100000000 then none
          else if d < t then some (sum, rest)
          else if weight * (36 - t) ≥ 0x100000000 then none
          else readNumeral bias (position + 36) (weight * (36 - t)) sum rest

theorem length_of_readNumeral {bias position weight value : Nat} {cs rest : List Char} {n : Nat}
    (h : readNumeral bias position weight value cs = some (n, rest)) :
    rest.length < cs.length := by
  induction cs generalizing position weight value with
  | nil => simp [readNumeral] at h
  | cons c tail ih =>
      simp only [readNumeral] at h
      split at h
      · simp at h
      · split at h
        · simp at h
        · split at h
          · simp only [Option.some.injEq, Prod.mk.injEq] at h
            simp [← h.2]
          · split at h
            · simp at h
            · have := ih h
              simp only [List.length_cons]
              omega

/-- Inserts the characters whose distances `cs` holds; `index` and `value` are where the next one
would go at distance zero. -/
def insertAll (bias index value : Nat) (first : Bool) (done cs : List Char) :
    Option (List Char) :=
  match cs with
  | [] => some done
  | c :: tail =>
      match _h : readNumeral bias 36 1 index (c :: tail) with
      | none => none
      | some (reached, rest) =>
          let count := done.length + 1
          let next := value + reached / count
          if next.isValidChar then
            insertAll (adapt (reached - index) count first) (reached % count + 1) next false
              (done.insertIdx (reached % count) (.ofNat next)) rest
          else none
  termination_by cs.length
  decreasing_by exact length_of_readNumeral _h

/-- The label that is written as `cs`. -/
def decode (cs : List Char) : Option (List Char) :=
  let tail := (cs.reverse.takeWhile (· != '-')).reverse
  let head := (cs.take (cs.length - tail.length)).dropLast
  if head.any (0x80 ≤ ·.toNat) then none
  else insertAll 72 0 0x80 true head (if head.isEmpty then cs else tail)

end LicenseChooser.Url.Punycode
