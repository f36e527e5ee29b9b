import LicenseChooser.Http.Dialogue
import LicenseChooser.Text.Base64
import LicenseChooser.Url.Reading

/-!
One request as its sender sees it: redirects are followed, at most ten of them. User and password
of the URL are sent as an authorization, which no other host or port ever receives.
-/

namespace LicenseChooser.Http

open Text

def maxRedirects : Nat := 10

/-- The bytes that a written user or password stands for, if they are a text. -/
def userinfoText? (written : String) : Option (List UInt8) :=
  (readUtf8? (Url.percentDecode written.toList)).map encodeUtf8

/-- The URL without its user and password, and the authorization that stands for them. -/
def extractAuthorization (url : Url) : Url × Option String :=
  match url.authority with
  | none => (url, none)
  | some a =>
      match userinfoText? a.username with
      | none => (url, none)
      | some user =>
          match user, a.password.bind userinfoText? with
          | [], none => (url, none)
          | user, password =>
              let credentials := user ++ [58] ++ password.getD []
              (url.withoutUserinfo, some ("Basic " ++ String.ofList (encodeBase64 credentials)))

def isWeb (url : Url) : Bool := (url.scheme == "http" || url.scheme == "https") && url.host?.isSome

/-- The characters that a URL can have in its host and a request line cannot. -/
def unsendable (c : Char) : Bool := ['"', '\x60', '\x7b', '\x7d'].contains c

/-- The longest text of a URL that a request is made for, in bytes. -/
def maxUrlLength : Nat := 65534

/-- Whether a request can be made for a URL. -/
def isSendable (url : Url) : Bool :=
  isWeb url && !((url.host?.map (·.toString.toList)).getD []).any unsendable &&
    url.toString.utf8ByteSize ≤ maxUrlLength

/-- The place that a response redirects to. -/
def location? (url : Url) (response : Response) : Option Url :=
  (response.header? "location").bind fun text => (url.join text).toOption

def sameServer (a b : Url) : Bool := a.host? == b.host? && a.effectivePort? == b.effectivePort?

/-- The request that a response asks for instead, if it is a redirect. Only a request without parts
is sent again as it is. -/
def redirected? (request : Request) (response : Response) : Option Request :=
  let again (r : Request) : Option Request :=
    (location? request.url response).map fun url =>
      { r with
        url := url.withoutFragment
        authorization := if sameServer request.url url then request.authorization else none }
  if response.status = 301 ∨ response.status = 302 ∨ response.status = 303 then
    again { request with method := .get, parts := [] }
  else if (response.status = 307 ∨ response.status = 308) ∧ request.parts = [] then again request
  else none

/-- Sends a request, and then up to `left` others that responses redirect to. -/
def follow (left : Nat) (request : Request) : Dialogue (Except TransportError Response) :=
  .ask request fun
    | none => .done (.error (.sending request.url.toString))
    | some response =>
        match redirected? request response with
        | none => .done (.ok response)
        | some next =>
            match left with
            | 0 => .done (.error (.redirecting request.url.toString))
            | k + 1 =>
                if isSendable next.url then follow k next
                else .done (.error (.building next.url.toString))

/-- Sends a request to a URL, unless none can be made for it. -/
def exchange (method : Method) (url : Url) (parts : List Part) :
    Dialogue (Except TransportError Response) :=
  let (bare, authorization) := extractAuthorization url
  if isSendable bare then follow maxRedirects ⟨method, bare, authorization, parts⟩
  else .done (.error (.building bare.toString))

end LicenseChooser.Http
