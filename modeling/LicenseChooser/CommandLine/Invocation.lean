import LicenseChooser.CommandLine.Level

/-!
The command line of the program. Options for all commands may stand before or after the command; what
stands after it replaces what stands before.
-/

namespace LicenseChooser.CommandLine

def programName : String := "license-catalog"

def programVersion : String := "0.1.0"

inductive ReportFormat where
  | terminal
  | json
  | xml
  deriving DecidableEq, Repr

namespace ReportFormat

def name : ReportFormat → String
  | terminal => "terminal"
  | json => "json"
  | xml => "xml"

def all : List ReportFormat := [terminal, json, xml]

def ofName? (s : String) : Option ReportFormat := all.find? (·.name == s)

end ReportFormat

inductive Command where
  | list (locale : String)
  | catalog (locale : String) (report : ReportFormat)
  | inspect (id : String) (report : ReportFormat)
  | issue (id locale : String) (answers : List (String × String))
  | details (uri : String)
  deriving DecidableEq, Repr

/-- What the program is asked to do, and the settings that are given with it. -/
structure Invocation where
  config : Option String
  rootUrl : Option String
  excluded : List String
  verbosity : Nat
  quiet : Bool
  command : Command
  deriving DecidableEq, Repr

/-- The options of every command. -/
def generalOptions : List OptionSpec :=
  [⟨"config", none, .single, "CONFIG", .path,
      "Config file [default: ./.license-catalog/config.toml, " ++
        "fallback ~/.config/license-catalog/config.toml]"⟩,
    ⟨"root-url", none, .single, "URL", .text, "Override the API root URL from the config"⟩,
    ⟨"exclude", none, .repeated, "ID", .text,
      "Exclude a license class in addition to the configured ones (repeatable)"⟩,
    ⟨"verbose", some 'v', .counted, "", .text,
      "Increase log verbosity (-v info, -vv debug, -vvv trace)"⟩,
    ⟨"quiet", some 'q', .flag, "", .text, "Only print results, no progress or headings"⟩]

def localeOption : OptionSpec := ⟨"locale", none, .single, "LOCALE", .text, "[default: en]"⟩

def reportOption : OptionSpec :=
  ⟨"report", none, .single, "FORMAT", .choice (ReportFormat.all.map ReportFormat.name),
    "Report format [default: terminal]"⟩

def answerOption : OptionSpec :=
  ⟨"answer", none, .repeated, "FIELD=VALUE", .assignment, "Answer as `field=value` (repeatable)"⟩

/-- The level of a command, by its name. -/
def commandLevels : List (String × Level) :=
  let level (title : String) (operand : Option String) (options : List OptionSpec) : Level :=
    ⟨title, options ++ generalOptions, operand, [], false⟩
  [("list", level "List the identifiers of the offered license classes" none [localeOption]),
    ("catalog", level "Fetch every license class with its questions" none
      [localeOption, reportOption]),
    ("show", level "Show the questions of one license class" (some "ID") [reportOption]),
    ("issue", level "Answer the questions of a license class and print the issued license URI"
      (some "ID") [localeOption, answerOption]),
    ("details", level "Fetch the descriptor document of a license URI and print its name"
      (some "URI") [])]

def helpCommand : String := "help"

def commandNames : List String := commandLevels.map (·.1) ++ [helpCommand]

def topLevel : Level :=
  ⟨"Browse license classes and issue license URIs from a license-chooser API", generalOptions, none,
    commandNames, true⟩

/-- The locale where none is given. -/
def defaultLocale : String := "en"

namespace Given

/-- The last value of an option. -/
def value? (g : Given) (name : String) : Option String := (g.values name).getLast?

def locale (g : Given) : String := (g.value? localeOption.name).getD defaultLocale

def report (g : Given) : ReportFormat :=
  ((g.value? reportOption.name).bind ReportFormat.ofName?).getD .terminal

def answers (g : Given) : List (String × String) :=
  (g.values answerOption.name).filterMap assignment?

/-- Options of the program as a command sees them: its own ones count, if it has any. -/
def under (outer inner : Given) (name : String) : List String :=
  if inner.has name then inner.values name else outer.values name

end Given

/-- The command of a name with what was given for it. -/
def commandOf? (name : String) (operand : String) (g : Given) : Option Command :=
  match name with
  | "list" => some (.list g.locale)
  | "catalog" => some (.catalog g.locale g.report)
  | "show" => some (.inspect operand g.report)
  | "issue" => some (.issue operand g.locale g.answers)
  | "details" => some (.details operand)
  | _ => none

/-- The help that is asked for by names after the command `help`. -/
def helpFor : List String → Stop
  | [] => .help none
  | name :: more =>
      if !commandNames.contains name then .usage (.unknownCommand name)
      else
        match more with
        | [] => .help (some name)
        | other :: _ => .usage (.unknownCommand other)

/-- Reads the arguments of a command. -/
def readCommand (name : String) (l : Level) (args : List String) :
    Except Stop (Command × Given) := do
  let named (s : Stop) : Stop := match s with
    | .help _ => .help (some name)
    | other => other
  let (reading, _) ← (l.read false .start args).mapError named
  let given := (← reading.settle).given
  match l.operand, given.operand with
  | some operand, none => throw (.usage (.missingOperand operand))
  | _, operand =>
      match commandOf? name (operand.getD "") given with
      | some command => return (command, given)
      | none => throw (.usage (.unknownCommand name))

/-- Reads a command line. The arguments of the command are judged before those in front of it. -/
def parse (args : List String) : Except Stop Invocation := do
  let (reading, next) ← topLevel.read false .start args
  match next with
  | none =>
      let given := (← reading.settle).given
      if given.isEmpty then throw .nothing
      else throw (.usage (.missingCommand programName commandNames))
  | some (name, rest) =>
      match commandLevels.lookup name with
      | none => throw (helpFor rest)
      | some l =>
          let (command, inner) ← readCommand name l rest
          let outer := (← reading.settle).given
          return { config := (outer.under inner "config").getLast?
                   rootUrl := (outer.under inner "root-url").getLast?
                   excluded := outer.under inner "exclude"
                   verbosity := (outer.under inner "verbose").length
                   quiet := !(outer.under inner "quiet").isEmpty
                   command }

end LicenseChooser.CommandLine
