import LicenseChooser.Program

/-!
The command. It looks at the files that settings may come from, runs the program on them and writes
what comes out. It has no connection to any network, so each request ends like one that reaches no
server.
-/

namespace LicenseChooser

open CommandLine

/-- The files that an invocation may read. -/
def candidates (place : Place) (args : List String) : List String :=
  match parse args with
  | .ok i => i.config.toList ++ place.searched
  | .error _ => []

/-- Whether to write colors: a demand for them is heard before a wish for none, and without either
they are for terminals. -/
def wantsColors (forced unwanted allowed : Option String) (terminal : Bool) : Bool :=
  if forced.any (· != "0") then true
  else if unwanted.isSome then false
  else terminal && allowed != some "0"

/-- What a path leads to when reading it fails. -/
def lookupOfError : IO.Error → Lookup
  | .noFileOrDirectory _ _ _ => .failed .missing
  | .permissionDenied _ _ _ => .failed .denied
  | .inappropriateType _ code _ => if code = 21 then .directory else .failed .notDirectory
  | e => .failed (.other e.toString)

def look (path : String) : IO Lookup := do
  try
    return .file (← IO.FS.readBinFile path).toList
  catch e =>
    return lookupOfError e

/-- The world as it is found when the command starts. -/
def world (args : List String) : IO World := do
  let home := (← IO.getEnv "HOME").filter (· != "")
  let place : Place := ⟨(← IO.currentDir).toString, home⟩
  let found ← (candidates place args).mapM fun path => return (path, ← look path)
  let colors := wantsColors (← IO.getEnv "CLICOLOR_FORCE") (← IO.getEnv "NO_COLOR")
    (← IO.getEnv "CLICOLOR") (← (← IO.getStdout).isTty)
  return {
    files := fun path => (found.lookup path).getD (.failed .missing)
    place
    server := .unreachable
    schedule := []
    colors }

end LicenseChooser

def main (args : List String) : IO UInt32 := do
  let outcome := LicenseChooser.run (← LicenseChooser.world args) args
  IO.print outcome.out
  IO.eprint outcome.err
  return outcome.exit.toUInt32
