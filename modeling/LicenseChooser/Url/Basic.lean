import LicenseChooser.Url.Host
import LicenseChooser.Url.Path

/-!
URLs in the form that the URL standard gives them: every component is kept as it is written, so
printing only puts them together.
-/

namespace LicenseChooser

namespace Url

/-- What stands between the two slashes and the path. The host may be empty outside web URLs. -/
structure Authority where
  username : String
  password : Option String
  host : Option Host
  port : Option Nat
  deriving DecidableEq, Repr

/-- User and password, with the sign that ends them. -/
def Authority.userinfo (a : Authority) : String :=
  match a.password with
  | some p => a.username ++ ":" ++ p ++ "@"
  | none => if a.username = "" then "" else a.username ++ "@"

def Authority.hostText (a : Authority) : String := (a.host.map Host.toString).getD ""

def Authority.portText (a : Authority) : String := (a.port.map fun n => s!":{n}").getD ""

def Authority.toString (a : Authority) : String :=
  "//" ++ a.userinfo ++ a.hostText ++ a.portText

end Url

open Url in
structure Url where
  scheme : String
  authority : Option Authority
  path : Path
  query : Option String
  fragment : Option String
  deriving DecidableEq, Repr

namespace Url

def kindOf (scheme : String) : Kind :=
  if scheme = "file" then .file
  else if ["http", "https", "ws", "wss", "ftp"].contains scheme then .web
  else .other

def kind (u : Url) : Kind := kindOf u.scheme

/-- The port that a scheme implies. -/
def defaultPort? (scheme : String) : Option Nat :=
  if scheme = "http" ∨ scheme = "ws" then some 80
  else if scheme = "https" ∨ scheme = "wss" then some 443
  else if scheme = "ftp" then some 21
  else none

/-- Without authority a path that begins with an empty segment would read as one. -/
def needsDot (u : Url) : Bool :=
  match u.authority, u.path with
  | none, .segments ("" :: _ :: _) => true
  | _, _ => false

def toString (u : Url) : String :=
  u.scheme ++ ":" ++ (u.authority.map Authority.toString).getD "" ++
    (if u.needsDot then "/." else "") ++ u.path.toString ++
    (u.query.map ("?" ++ ·)).getD "" ++ (u.fragment.map ("#" ++ ·)).getD ""

/-- A URL below which nothing can be named. -/
def isOpaque (u : Url) : Bool :=
  match u.path with
  | .opaqueText _ => true
  | .segments _ => false

def host? (u : Url) : Option Host := u.authority.bind (·.host)

/-- The port that a request goes to. -/
def effectivePort? (u : Url) : Option Nat :=
  (u.authority.bind (·.port)).or (defaultPort? u.scheme)

/-- The same place without user and password. -/
def withoutUserinfo (u : Url) : Url :=
  { u with authority := u.authority.map fun a => { a with username := "", password := none } }

def withoutFragment (u : Url) : Url := { u with fragment := none }

end Url

end LicenseChooser
