import LicenseChooser.Decimal.Shortest
import LicenseChooser.Shape
import LicenseChooser.Text.Numeral
import LicenseChooser.Toml.Fault

/-!
TOML values, with the stretches of the text that they were read from. Tables keep the order in which
their keys were written.
-/

namespace LicenseChooser.Toml

/-- Numbers are reported without an exponent, and a tie goes up. -/
def numberStyle : Decimal.Style := ⟨.up, fun _ => true⟩

/-- A number with a point, or one that is too large. -/
inductive Floating where
  | finite (negative : Bool) (value : Decimal.Binary64)
  | infinite (negative : Bool)
  | notANumber
  deriving DecidableEq, Repr

def Floating.text : Floating → String
  | .finite negative value => (if negative then "-" else "") ++ String.ofList (numberStyle.text value)
  | .infinite negative => if negative then "-inf" else "inf"
  | .notANumber => "NaN"

/-- A value that is no array and no table. -/
inductive Scalar where
  | text (value : String)
  | integer (value : Int)
  | real (value : Floating)
  | boolean (value : Bool)
  /-- A date or a time. -/
  | moment
  deriving DecidableEq, Repr

/-- A part of a key. -/
structure Key where
  name : String
  span : Span
  deriving DecidableEq, Repr

def isBareKeyChar (c : Char) : Bool := c.isAlphanum || c == '-' || c == '_'

/-- A character in double quotes. -/
def escaped (c : Char) : List Char :=
  match c with
  | '\x08' => ['\\', 'b']
  | '\t' => ['\\', 't']
  | '\n' => ['\\', 'n']
  | '\x0c' => ['\\', 'f']
  | '\r' => ['\\', 'r']
  | '"' => ['\\', '"']
  | '\\' => ['\\', '\\']
  | _ =>
      if c.toNat < 0x20 ∨ c.toNat = 0x7F then
        ['\\', 'u', '0', '0', Text.upperHexDigit (c.toNat / 16), Text.upperHexDigit (c.toNat % 16)]
      else [c]

/-- A key as it is best written: without quotes, or else without escapes. -/
def Key.written (key : Key) : String :=
  let cs := key.name.toList
  let plain := cs.all fun c => c == '\t' || escaped c == [c]
  let literal := !cs.contains '\'' && cs.all fun c => c == '"' || c == '\\' || escaped c == [c]
  if !cs.isEmpty && cs.all isBareKeyChar then key.name
  else if plain then "\"" ++ key.name ++ "\""
  else if literal then "'" ++ key.name ++ "'"
  else "\"" ++ String.ofList (cs.flatMap escaped) ++ "\""

inductive Value where
  | scalar (value : Scalar) (span : Span)
  | array (items : List Value) (span : Span)
  /-- A table has no stretch of its own if only longer keys speak of it. -/
  | table (members : List (Key × Value)) (span : Option Span)
  deriving Repr

/-- What a value is. A date or time counts as a record of its own. -/
def Value.found : Value → Found
  | .scalar (.text s) _ => .text s
  | .scalar (.integer n) _ => .integer n
  | .scalar (.real x) _ => .real x.text
  | .scalar (.boolean b) _ => .boolean b
  | .scalar .moment _ | .table _ _ => .map
  | .array _ _ => .sequence

/-- What a value is called where a table is needed. -/
def Value.kind : Value → String
  | .scalar (.text _) _ => "string"
  | .scalar (.integer _) _ => "integer"
  | .scalar (.real _) _ => "float"
  | .scalar (.boolean _) _ => "boolean"
  | .scalar .moment _ => "datetime"
  | .array _ _ => "array"
  | .table _ _ => "inline table"

def Value.span? : Value → Option Span
  | .scalar _ span | .array _ span => some span
  | .table _ span => span

end LicenseChooser.Toml
