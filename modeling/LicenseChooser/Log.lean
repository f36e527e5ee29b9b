import LicenseChooser.Text.Quoted

/-!
Log lines: a level, a message, and named values of which some are quoted.
-/

namespace LicenseChooser

namespace Log

inductive Level where
  | error
  | warn
  | info
  deriving DecidableEq, Repr

def Level.name : Level → String
  | .error => "ERROR"
  | .warn => "WARN"
  | .info => "INFO"

inductive Field where
  | quoted (text : String)
  | bare (text : String)
  deriving DecidableEq, Repr

def Field.text : Field → String
  | .quoted text => Text.quote text
  | .bare text => text

structure Line where
  level : Level
  message : String
  fields : List (String × Field)
  deriving DecidableEq, Repr

def Line.text (l : Line) : String :=
  l.level.name ++ " " ++ l.message ++
    String.join (l.fields.map fun f => " " ++ f.1 ++ "=" ++ f.2.text)

end Log

end LicenseChooser
