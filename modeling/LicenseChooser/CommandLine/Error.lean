/-!
What is wrong with a command line.
-/

namespace LicenseChooser.CommandLine

inductive UsageError where
  | missingValue (option : String) (choices : List String)
  | notAChoice (value option : String) (choices : List String)
  | refusedValue (value option reason : String)
  | needlessValue (value option : String)
  | repeatedOption (option : String)
  | unexpectedArgument (argument : String)
  | unknownCommand (name : String)
  | missingOperand (name : String)
  | missingCommand (program : String) (commands : List String)
  deriving DecidableEq, Repr

/-- The names that could be given, on a line of their own. -/
def listed (title : String) (names : List String) : String :=
  if names.isEmpty then "" else "\n  [" ++ title ++ ": " ++ ", ".intercalate names ++ "]"

def UsageError.message : UsageError → String
  | .missingValue option choices =>
      "a value is required for '" ++ option ++ "' but none was supplied" ++
        listed "possible values" choices
  | .notAChoice value option choices =>
      "invalid value '" ++ value ++ "' for '" ++ option ++ "'" ++ listed "possible values" choices
  | .refusedValue value option reason =>
      "invalid value '" ++ value ++ "' for '" ++ option ++ "': " ++ reason
  | .needlessValue value option =>
      "unexpected value '" ++ value ++ "' for '" ++ option ++ "' found; no more were expected"
  | .repeatedOption option => "the argument '" ++ option ++ "' cannot be used multiple times"
  | .unexpectedArgument argument => "unexpected argument '" ++ argument ++ "' found"
  | .unknownCommand name => "unrecognized subcommand '" ++ name ++ "'"
  | .missingOperand name =>
      "the following required arguments were not provided:\n  <" ++ name ++ ">"
  | .missingCommand program commands =>
      "'" ++ program ++ "' requires a subcommand but one was not provided" ++
        listed "subcommands" commands

end LicenseChooser.CommandLine
