/-!
Why a text is no TOML, and where. A place in a text is named by how many characters are left from it
on, which every reader knows without looking back.
-/

namespace LicenseChooser.Toml

/-- A stretch of a text, by what is left where it begins and where it ends. -/
structure Span where
  start : Nat
  stop : Nat
  deriving DecidableEq, Repr

/-- What is wrong with a text that is written as it should be. -/
inductive Cause where
  /-- The table is left out where a dotted key meets what was made in another way. -/
  | duplicateKey (key : String) (table : Option (List String))
  | noTable (path : List String) (found : String)
  | outOfRange
  | tooLarge
  | tooSmall
  | tooDeep
  deriving DecidableEq, Repr

def Cause.message : Cause → String
  | .duplicateKey key none => "duplicate key `" ++ key ++ "`"
  | .duplicateKey key (some []) => "duplicate key `" ++ key ++ "` in document root"
  | .duplicateKey key (some table) =>
      "duplicate key `" ++ key ++ "` in table `" ++ ".".intercalate table ++ "`"
  | .noTable path found =>
      "dotted key `" ++ ".".intercalate path ++ "` attempted to extend non-table type (" ++ found ++
        ")"
  | .outOfRange => "value is out of range"
  | .tooLarge => "number too large to fit in target type"
  | .tooSmall => "number too small to fit in target type"
  | .tooDeep => "recursion limit exceeded"

/-- A place at which a text stops being TOML: what was being read there, what might have followed, and
what is wrong if nothing is missing. -/
structure Fault where
  left : Nat
  label : Option String
  expected : List String
  cause : Option Cause
  deriving DecidableEq, Repr

namespace Fault

/-- A fault of which nothing but its place is said. -/
def bare (rest : List Char) : Fault := ⟨rest.length, none, [], none⟩

/-- A fault in something that has a name. -/
def labelled (rest : List Char) (label : String) (expected : List String) : Fault :=
  ⟨rest.length, some label, expected, none⟩

def caused (rest : List Char) (cause : Cause) : Fault := ⟨rest.length, none, [], some cause⟩

/-- The same fault as part of something larger, whose name counts if the part has none. -/
def inside (label : String) (f : Fault) : Fault := { f with label := f.label.or (some label) }

def expecting (what : String) (f : Fault) : Fault := { f with expected := f.expected ++ [what] }

/-- What a fault says, one line for each thing that is known of it. -/
def message (f : Fault) : String :=
  let label := f.label.map ("invalid " ++ ·)
  let expected := if f.expected.isEmpty then none else some ("expected " ++ ", ".intercalate f.expected)
  "\n".intercalate (label.toList ++ expected.toList ++ (f.cause.map Cause.message).toList)

end Fault

end LicenseChooser.Toml
