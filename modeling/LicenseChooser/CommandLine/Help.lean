import LicenseChooser.CommandLine.Invocation

/-!
The help of the program and of its commands: what they do, how they are called, and their options.
-/

namespace LicenseChooser.CommandLine

/-- A name and what it stands for, in two columns. -/
def helpRow (width : Nat) (name meaning : String) : String :=
  "  " ++ name ++ String.ofList (List.replicate (width - name.length) ' ') ++ "  " ++ meaning ++ "\n"

/-- Rows under a title, the names in a column as wide as the widest. -/
def helpRows (title : String) (rows : List (String × String)) : String :=
  let width := (rows.map (·.1.length)).foldl max 0
  if rows.isEmpty then ""
  else "\n" ++ title ++ ":\n" ++ String.join (rows.map fun r => helpRow width r.1 r.2)

/-- An option in its long form, behind its short one if it has one. -/
def optionRow (o : OptionSpec) : String × String :=
  let short := match o.letter with
    | some c => String.ofList ['-', c, ',', ' ']
    | none => "    "
  (short ++ o.display, o.help)

def helpRowOf (l : Level) : List (String × String) :=
  [("-h, --help", "Print help")] ++ if l.versioned then [("-V, --version", "Print version")] else []

def helpMeaning (name : String) : String :=
  match commandLevels.lookup name with
  | some l => l.title
  | none => "Print this message or the help of the given subcommand(s)"

def levelHelp (called : String) (l : Level) : String :=
  l.title ++ "\n\nUsage: " ++ called ++ " [OPTIONS]" ++
    (l.operand.map fun o => " <" ++ o ++ ">").getD "" ++
    (if l.commands.isEmpty then "" else " <COMMAND>") ++ "\n" ++
    helpRows "Commands" (l.commands.map fun name => (name, helpMeaning name)) ++
    helpRows "Arguments" (l.operand.toList.map fun o => ("<" ++ o ++ ">", "")) ++
    helpRows "Options" (l.options.map optionRow ++ helpRowOf l)

/-- The help of a command, or of the program. -/
def helpText (name : Option String) : String :=
  match name.bind fun n => (commandLevels.lookup n).map (n, ·) with
  | some (n, l) => levelHelp (programName ++ " " ++ n) l
  | none => levelHelp programName topLevel

end LicenseChooser.CommandLine
