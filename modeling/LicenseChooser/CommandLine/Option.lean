import LicenseChooser.CommandLine.Error
import LicenseChooser.Text.Blank
import LicenseChooser.Text.Scan

/-!
Options: how they are written, how often they may stand, and which values they take.
-/

namespace LicenseChooser.CommandLine

open Text

/-- Whether an option takes a value, and whether it may stand more than once. -/
inductive Arity where
  | flag
  | counted
  | single
  | repeated
  deriving DecidableEq, Repr

inductive ValueKind where
  | text
  /-- A path, which is never empty. -/
  | path
  | choice (names : List String)
  /-- A field and its value. -/
  | assignment
  deriving DecidableEq, Repr

structure OptionSpec where
  name : String
  letter : Option Char
  arity : Arity
  placeholder : String
  kind : ValueKind
  help : String
  deriving DecidableEq, Repr

/-- A field, trimmed and not empty, and the text after the first equals sign. -/
def assignment? (s : String) : Option (String × String) :=
  match cutWhere (· == '=') s.toList with
  | (field, some value) =>
      let name := trimChars field
      if name.isEmpty then none else some (String.ofList name, String.ofList value)
  | (_, none) => none

namespace OptionSpec

def takesValue (o : OptionSpec) : Bool := o.arity = .single || o.arity = .repeated

/-- An option that may stand but once. -/
def isUnique (o : OptionSpec) : Bool := o.arity = .flag || o.arity = .single

/-- The option as messages show it. -/
def display (o : OptionSpec) : String :=
  "--" ++ o.name ++
    match o.arity with
    | .flag => ""
    | .counted => "..."
    | .single | .repeated => " <" ++ o.placeholder ++ ">"

def choices (o : OptionSpec) : List String :=
  match o.kind with
  | .choice names => names
  | _ => []

def checkValue (o : OptionSpec) (v : String) : Except UsageError Unit :=
  match o.kind with
  | .text => .ok ()
  | .path => if v = "" then .error (.missingValue o.display []) else .ok ()
  | .choice names =>
      if names.contains v then .ok ()
      else if v = "" then .error (.missingValue o.display names)
      else .error (.notAChoice v o.display names)
  | .assignment =>
      if (assignment? v).isSome then .ok ()
      else .error (.refusedValue v o.display ("expected FIELD=VALUE, got `" ++ v ++ "`"))

end OptionSpec

end LicenseChooser.CommandLine
