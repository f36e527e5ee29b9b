import LicenseChooser.Text.Utf8

/-!
Files as their readers see them: a path leads to a file, to a directory, or nowhere.
-/

namespace LicenseChooser

/-- Why a path gives no text. -/
inductive FileError where
  | missing
  | denied
  | notDirectory
  | isDirectory
  | nameTooLong
  | nulInName
  | notText
  | other (message : String)
  deriving DecidableEq, Repr

def FileError.message : FileError → String
  | .missing => "No such file or directory (os error 2)"
  | .denied => "Permission denied (os error 13)"
  | .notDirectory => "Not a directory (os error 20)"
  | .isDirectory => "Is a directory (os error 21)"
  | .nameTooLong => "File name too long (os error 36)"
  | .nulInName => "file name contained an unexpected NUL byte"
  | .notText => "stream did not contain valid UTF-8"
  | .other message => message

/-- What a path leads to. -/
inductive Lookup where
  | file (content : List UInt8)
  | directory
  | failed (cause : FileError)
  deriving DecidableEq, Repr

/-- What every path leads to. -/
abbrev Files := String → Lookup

namespace Files

/-- Whether a path leads to anything. -/
def holds (files : Files) (path : String) : Bool :=
  match files path with
  | .file _ | .directory => true
  | .failed _ => false

/-- The text of a file. -/
def text (files : Files) (path : String) : Except FileError String :=
  match files path with
  | .file content =>
      match Text.readUtf8? content with
      | some cs => .ok (String.ofList cs)
      | none => .error .notText
  | .directory => .error .isDirectory
  | .failed cause => .error cause

/-- A path below another one; a path from the root stands for itself. -/
def join (base path : String) : String :=
  if path.startsWith "/" then path
  else if base.endsWith "/" || base = "" then base ++ path
  else base ++ "/" ++ path

end Files

end LicenseChooser
