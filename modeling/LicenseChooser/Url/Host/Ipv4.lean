import LicenseChooser.Text.Numeral
import LicenseChooser.Text.Scan
import LicenseChooser.Url.Error

/-!
IPv4 addresses in a host: up to four numbers in octal, decimal or hexadecimal, of which the last
fills the bytes that the others leave. A host is one as soon as its last part is a number.
-/

namespace LicenseChooser.Url.Ipv4

open Text

/-- The digits of a part, and their base. -/
def numeral (cs : List Char) : Nat × List Char :=
  match cs with
  | '0' :: 'x' :: digits => (16, digits)
  | '0' :: 'X' :: digits => (16, digits)
  | '0' :: c :: digits => (8, c :: digits)
  | digits => (10, digits)

/-- The number that a part stands for. The prefix of hexadecimal alone is zero. -/
def number? (cs : List Char) : Option Nat :=
  if cs.isEmpty then none else numeralValue? (numeral cs).1 (numeral cs).2

/-- The parts of a host, without the empty one after a final dot. -/
def parts (host : List Char) : List (List Char) :=
  let all := splitWhere (· == '.') host
  if all.getLast? = some [] then all.dropLast else all

def endsInNumber (host : List Char) : Bool :=
  match (parts host).getLast? with
  | none => false
  | some part => (!part.isEmpty && part.all (isDigit 10)) || (number? part).isSome

/-- The address of the numbers before the last one, and the last one. -/
def address (leading : List Nat) (last : Nat) : Except Error Nat :=
  if leading.length > 3 ∨ leading.any (· > 255) ∨ last ≥ Nat.pow 256 (4 - leading.length) then
    .error .invalidIpv4
  else
    .ok (leading.foldl (fun value n => value * 256 + n) 0 * Nat.pow 256 (4 - leading.length) + last)

def parse (host : List Char) : Except Error Nat :=
  match (parts host).mapM number? with
  | none => .error .invalidIpv4
  | some numbers =>
      match numbers.getLast? with
      | none => .error .invalidIpv4
      | some last => address numbers.dropLast last

def print (value : Nat) : String :=
  ".".intercalate ([0x1000000, 0x10000, 0x100, 1].map fun unit => toString (value / unit % 256))

end LicenseChooser.Url.Ipv4
