import LicenseChooser.Catalog.Retrieval
import LicenseChooser.CommandLine.Help
import LicenseChooser.Json.Writing
import LicenseChooser.License.Writing
import LicenseChooser.Report.Terminal
import LicenseChooser.Settings.Sources

/-!
The whole program: from a command line, files and a server to what is written and how it ends. Results
go to standard output; log lines and complaints go to standard error only.
-/

namespace LicenseChooser

open CommandLine Http Text

/-- Everything that the program meets. -/
structure World where
  files : Files
  place : Place
  server : Server
  /-- The order in which requests that run side by side take their turns. -/
  schedule : List Nat
  colors : Bool

/-- How a run of the program ends. -/
structure Outcome where
  exit : Nat
  out : String
  err : String
  sent : List Request

namespace Outcome

/-- A text with each of its lines indented. -/
def indented (s : String) : String :=
  "\n".intercalate ((splitWhere (· == '\n') s.toList).map fun line => "    " ++ String.ofList line)

/-- A failure in one sentence with what lies behind it. -/
def failed (message cause : String) : Outcome :=
  ⟨1, "", "Error: " ++ message ++ "\n\nCaused by:\n" ++ indented cause ++ "\n", []⟩

end Outcome

def stopped : Stop → Outcome
  | .version => ⟨0, programName ++ " " ++ programVersion ++ "\n", "", []⟩
  | .help name => ⟨0, helpText name, "", []⟩
  | .nothing => ⟨2, "", helpText none, []⟩
  | .usage cause =>
      ⟨2, "", "error: " ++ cause.message ++ "\n\nFor more information, try '--help'.\n", []⟩

/-- The lines of a log that are written; only failures and warnings unless more is asked for. -/
def writtenLog (verbosity : Nat) (lines : List Log.Line) : String :=
  String.join ((lines.filter fun l => 0 < verbosity || l.level != .info).map (·.text ++ "\n"))

/-- A complaint about what was not obtained. -/
def complaint (colors : Bool) (message : String) : String :=
  (Report.Style.colored .red).apply colors "✗" ++ " " ++ message ++ "\n"

/-- The result of a command that yields something or nothing. -/
def yields (value : Option String) (nothing : String) (verbosity : Nat) (log : List Log.Line)
    (sent : List Request) : Outcome :=
  match value with
  | some out => ⟨0, out, writtenLog verbosity log, sent⟩
  | none => ⟨1, "", writtenLog verbosity log ++ nothing, sent⟩

def reportLicense (colors : Bool) (format : ReportFormat) (l : LicenseClass) : String :=
  match format with
  | .terminal => Report.license colors l
  | .json => l.toJson ++ "\n"
  | .xml => l.toXml ++ "\n"

def reportCatalog (colors quiet : Bool) (locale : String) (format : ReportFormat) (c : Catalog) :
    String :=
  match format with
  | .terminal => Report.catalog colors quiet locale c
  | .json => c.toJson ++ "\n"
  | .xml => String.join (c.licenses.map (·.toXml ++ "\n"))

/-- The name of a license, under its URI unless it is to be quiet. -/
def reportName (colors quiet : Bool) (uri name : String) : String :=
  (if quiet then "" else " " ++ Report.Style.bold.apply colors "License:" ++ " " ++ uri ++ "\n") ++
    name ++ "\n"

/-- Carries out a command with a client; `log` was written before. -/
def perform (w : World) (c : Client) (i : Invocation) (log : List Log.Line) : Outcome :=
  match i.command with
  | .list locale =>
      let ((ids, more), sent) := (c.list locale).run w.server []
      ⟨0, Report.listing w.colors i.quiet locale ids, writtenLog i.verbosity (log ++ more), sent⟩
  | .catalog locale format =>
      let r := c.retrieve w.server w.schedule locale
      ⟨0, reportCatalog w.colors i.quiet locale format r.catalog,
        writtenLog i.verbosity (log ++ r.log), r.sent⟩
  | .inspect id format =>
      let ((license, more), sent) := (c.get id).run w.server []
      yields (license.map (reportLicense w.colors format))
        (complaint w.colors ("license class `" ++ id ++ "` could not be retrieved")) i.verbosity
        (log ++ more) sent
  | .issue id locale pairs =>
      let answers := Answers.ofList pairs
      let ((uri, more), sent) := (c.resolve id locale answers).run w.server []
      yields (uri.map (· ++ "\n"))
        (complaint w.colors
          ("no license URI issued for `" ++ id ++ "` with answers " ++ answers.toString))
        i.verbosity (log ++ more) sent
  | .details uri =>
      let ((document, more), sent) := (c.document uri).run w.server []
      yields ((document.bind (·.licenseName?)).map (reportName w.colors i.quiet uri))
        (complaint w.colors ("no license document for " ++ uri)) i.verbosity (log ++ more) sent

/-- The settings that count for an invocation. Its root takes the place of the configured one before
anyone looks at that, and its exclusions are added to the configured ones. -/
def Settings.under (s : Settings) (i : Invocation) : Settings :=
  { s with rootUrl := i.rootUrl.getD s.rootUrl, excluded := s.excluded ++ i.excluded }

/-- What the log says once there is a client. -/
def readyLine (c : Client) : Log.Line :=
  ⟨.info, "license API client ready", [("root", .bare c.root.toString)]⟩

/-- The settings of an invocation, and what a client is built from. -/
def effectiveSettings (w : World) (i : Invocation) : Except SettingsError ClientSettings := do
  let settings ← Settings.load w.files w.place i.config
  (settings.under i).clientSettings

def invoke (w : World) (i : Invocation) : Outcome :=
  match effectiveSettings w i with
  | .error e => .failed e.message e.report
  | .ok settings =>
      match Client.create settings with
      | .error (.refused cause) => .failed "building license API client" cause.message
      | .error .tooManyPermits => ⟨101, "", ClientError.tooManyPermits.message ++ "\n", []⟩
      | .ok c => perform w c i [readyLine c]

/-- Runs the program. -/
def run (w : World) (args : List String) : Outcome :=
  match parse args with
  | .error stop => stopped stop
  | .ok i => invoke w i

end LicenseChooser
