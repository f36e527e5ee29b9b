import LicenseChooser.Settings.Basic
import LicenseChooser.Toml.Document
import LicenseChooser.Toml.Excerpt

/-!
Settings from TOML. They stand in the table `api`; keys that are no settings are skipped, and the
first value of the wrong shape decides the error.
-/

namespace LicenseChooser.Settings

open Toml

/-- A value of the wrong shape, and the stretch of the text that it was read from. -/
structure Misfit where
  cause : ShapeError
  span : Option Span
  deriving DecidableEq, Repr

/-- The misfit of a value where something else was expected. -/
def misfit (v : Value) (expected : String) : Misfit := ⟨.wrongType v.found expected, v.span?⟩

def readText : Value → Except Misfit String
  | .scalar (.text s) _ => .ok s
  | v => .error (misfit v "a string")

def readTexts : Value → Except Misfit (List String)
  | .array items _ => items.mapM readText
  | v => .error (misfit v "a sequence")

/-- A number that is not negative; `expected` names the numbers of its kind. -/
def readNatural (expected : String) : Value → Except Misfit Nat
  | .scalar (.integer n) span =>
      if 0 ≤ n then .ok n.toNat else .error ⟨.wrongValue (.integer n) expected, some span⟩
  | v => .error (misfit v expected)

/-- The keys of the settings, in the order in which an array holds them. -/
def keys : List String := ["root_url", "excluded_licenses", "max_connections", "timeout_secs"]

/-- Takes one setting over. -/
def set (s : Settings) (key : String) (v : Value) : Except Misfit Settings :=
  match key with
  | "root_url" => (readText v).map fun x => { s with rootUrl := x }
  | "excluded_licenses" => (readTexts v).map fun x => { s with excluded := x }
  | "max_connections" => (readNatural "usize" v).map fun x => { s with maxConnections := x }
  | "timeout_secs" => (readNatural "u64" v).map fun x => { s with timeoutSeconds := x }
  | _ => .ok s

/-- A misfit that has no stretch of its own is found where its key is. -/
def Misfit.under (key : Key) (m : Misfit) : Misfit := { m with span := m.span.or (some key.span) }

def setMember (s : Settings) (key : Key) (v : Value) : Except Misfit Settings :=
  (s.set key.name v).mapError (·.under key)

/-- Settings from a table, or from an array that holds them in order. A date has none of them. -/
def ofValue : Value → Except Misfit Settings
  | .table members _ => members.foldlM (fun s p => s.setMember p.1 p.2) default
  | .array items _ => (keys.zip items).foldlM (fun s p => s.set p.1 p.2) default
  | .scalar .moment _ => .ok default
  | v => .error (misfit v "struct ApiConfig")

/-- Why a text gives no settings. -/
inductive ReadError where
  | malformed (fault : Fault)
  | shape (misfit : Misfit)
  deriving DecidableEq, Repr

/-- What an error in a text says, together with the line that it is in. -/
def ReadError.report (text : String) : ReadError → String
  | .malformed fault => excerpt text fault.span fault.message
  | .shape m =>
      match m.span with
      | some span => excerpt text span m.cause.message
      | none => m.cause.message ++ "\n"

/-- The settings under the key `api`. -/
def ofMembers (members : List (Key × Value)) : Except Misfit Settings :=
  match members.find? (·.1.name == "api") with
  | none => .ok default
  | some (key, v) => (ofValue v).mapError (·.under key)

def parse (s : String) : Except ReadError Settings :=
  match Toml.read s with
  | .error fault => .error (.malformed fault)
  | .ok members => (ofMembers members).mapError .shape

end LicenseChooser.Settings
