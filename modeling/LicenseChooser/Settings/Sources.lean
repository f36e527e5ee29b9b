import LicenseChooser.Files.Lookup
import LicenseChooser.Settings.Reading

/-!
Where settings come from. Exactly one source counts: the file that was named, or the first file that
is there, or else the defaults. A file that cannot be used is an error and never passed over.
-/

namespace LicenseChooser

/-- What went wrong with the settings. -/
inductive SettingsError where
  | reading (path : String) (cause : FileError)
  | parsing (path text : String) (cause : Settings.ReadError)
  | invalidRoot (text : String) (cause : Url.Error)
  deriving DecidableEq, Repr

namespace SettingsError

def message : SettingsError → String
  | .reading path _ => "reading config " ++ path
  | .parsing path _ _ => "parsing config " ++ path
  | .invalidRoot text _ => "invalid api.root_url `" ++ text ++ "`"

/-- What lies behind the error. Of a text that is no TOML nothing more is said. -/
def cause? : SettingsError → Option String
  | .reading _ cause => some cause.message
  | .parsing _ _ (.malformed _) => none
  | .parsing _ _ (.shape m) => some m.cause.message
  | .invalidRoot _ cause => some cause.message

/-- What lies behind the error, with the line of the text that it is found in. -/
def report : SettingsError → String
  | .reading _ cause => cause.message
  | .parsing _ text cause => cause.report text
  | .invalidRoot _ cause => cause.message

end SettingsError

/-- Where the program runs. -/
structure Place where
  workingDirectory : String
  home : Option String
  deriving DecidableEq, Repr

namespace Place

/-- The file of a project. -/
def localFile (p : Place) : String :=
  Files.join (Files.join p.workingDirectory ".license-catalog") "config.toml"

/-- The file of a user. -/
def homeFile? (p : Place) : Option String :=
  p.home.map fun home =>
    Files.join (Files.join (Files.join home ".config") "license-catalog") "config.toml"

/-- The files that count when none is named, the first one first. -/
def searched (p : Place) : List String := p.localFile :: p.homeFile?.toList

end Place

namespace Settings

/-- The file that counts, if any does. -/
def source? (files : Files) (place : Place) (named : Option String) : Option String :=
  named.or (place.searched.find? files.holds)

def readFile (files : Files) (path : String) : Except SettingsError Settings := do
  let text ← (files.text path).mapError (.reading path)
  (parse text).mapError (.parsing path text)

def load (files : Files) (place : Place) (named : Option String) : Except SettingsError Settings :=
  match source? files place named with
  | some path => readFile files path
  | none => .ok default

/-- What a client is built from. -/
def clientSettings (s : Settings) : Except SettingsError ClientSettings :=
  s.client.mapError (.invalidRoot s.rootUrl)

end Settings

end LicenseChooser
