import LicenseChooser.Url.Basic

/-!
Requests and what may come back. A reply that is absent stands for every way in which no response
arrives: no connection, a connection closed too early, a time limit that passed.
-/

namespace LicenseChooser.Http

inductive Method where
  | get
  | post
  deriving DecidableEq, Repr

def Method.name : Method → String
  | .get => "GET"
  | .post => "POST"

/-- One named text of a form. -/
structure Part where
  name : String
  text : String
  deriving DecidableEq, Repr

def Part.disposition (p : Part) : String := "form-data; name=\"" ++ p.name ++ "\""

structure Request where
  method : Method
  url : Url
  authorization : Option String
  parts : List Part
  deriving DecidableEq, Repr

/-- The place that a request names on the wire. -/
def Request.target (r : Request) : String := r.url.withoutFragment.toString

/-- What the client calls itself. -/
def userAgent : String := "license-catalog/0.1.0"

structure Response where
  status : Nat
  headers : List (String × String)
  body : List UInt8
  /-- Whether all of the body arrived. -/
  complete : Bool
  deriving DecidableEq, Repr

abbrev Reply := Option Response

def Response.isSuccess (r : Response) : Bool := 200 ≤ r.status && r.status < 300

/-- The value of the first header with this name, which is given in lower case. -/
def Response.header? (r : Response) (name : String) : Option String :=
  (r.headers.find? fun h => h.1.toLower == name).map (·.2)

/-- Why no complete response was obtained. -/
inductive TransportError where
  | building (url : String)
  | sending (url : String)
  | redirecting (url : String)
  | decoding
  deriving DecidableEq, Repr

def TransportError.message : TransportError → String
  | .building url => "builder error for url (" ++ url ++ ")"
  | .sending url => "error sending request for url (" ++ url ++ ")"
  | .redirecting url => "error following redirect for url (" ++ url ++ ")"
  | .decoding => "error decoding response body"

end LicenseChooser.Http
