import LicenseChooser.Text.Quoted

/-!
Values of the wrong shape: what was found where something else was expected. Readers of all formats
report them in the same words.
-/

namespace LicenseChooser

/-- What a value turned out to be. A number with a point is in its format's own spelling. -/
inductive Found where
  | null
  | boolean (value : Bool)
  | integer (value : Int)
  | real (numeral : String)
  | text (value : String)
  | sequence
  | map
  deriving DecidableEq, Repr

def Found.message : Found → String
  | .null => "null"
  | .boolean value => "boolean `" ++ toString value ++ "`"
  | .integer value => "integer `" ++ toString value ++ "`"
  | .real numeral => "floating point `" ++ numeral ++ "`"
  | .text value => "string " ++ Text.quote value
  | .sequence => "sequence"
  | .map => "map"

inductive ShapeError where
  | wrongType (found : Found) (expected : String)
  | wrongValue (found : Found) (expected : String)
  | missingField (name : String)
  | duplicateField (name : String)
  | wrongLength (length : Nat) (expected : String)
  deriving DecidableEq, Repr

def ShapeError.message : ShapeError → String
  | .wrongType found expected => "invalid type: " ++ found.message ++ ", expected " ++ expected
  | .wrongValue found expected => "invalid value: " ++ found.message ++ ", expected " ++ expected
  | .missingField name => "missing field `" ++ name ++ "`"
  | .duplicateField name => "duplicate field `" ++ name ++ "`"
  | .wrongLength length expected =>
      "invalid length " ++ toString length ++ ", expected " ++ expected

end LicenseChooser
