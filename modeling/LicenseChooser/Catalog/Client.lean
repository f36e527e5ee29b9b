import LicenseChooser.Answers.Payload
import LicenseChooser.Catalog.Assembly
import LicenseChooser.Http.Charset
import LicenseChooser.Http.Redirect
import LicenseChooser.License.Reading
import LicenseChooser.Url.Form

/-!
The client of a license service. Each operation is a dialogue and comes in two forms: one says why it
failed, the other writes that to the log and gives an empty or absent value.
-/

namespace LicenseChooser

open Http

/-- What a client is built from. -/
structure ClientSettings where
  root : Url
  excluded : List String
  maxConnections : Nat
  timeoutMillis : Nat
  deriving DecidableEq, Repr

def defaultMaxConnections : Nat := 5

def defaultTimeoutSeconds : Nat := 10

def ClientSettings.ofRoot (root : Url) : ClientSettings :=
  ⟨root, [], defaultMaxConnections, defaultTimeoutSeconds * 1000⟩

/-- The most requests in flight that can be counted. -/
def maxPermits : Nat := 2305843009213693951

structure Client where
  root : Url
  excluded : List String
  /-- How many requests may be in flight. -/
  permits : Nat
  deriving DecidableEq, Repr

/-- Why there is no client: its settings are refused, or building it breaks off. -/
inductive ClientError where
  | refused (cause : Failure)
  | tooManyPermits
  deriving DecidableEq, Repr

def ClientError.message : ClientError → String
  | .refused cause => cause.message
  | .tooManyPermits =>
      "a semaphore may not have more than MAX_PERMITS permits (" ++ toString maxPermits ++ ")"

/-- The reason given for a root below which nothing can be named. -/
def notBase : String := "not a base URL"

/-- A client for these settings. At least one request may be in flight. -/
def Client.create (s : ClientSettings) : Except ClientError Client :=
  if s.root.isOpaque then
    .error (.refused (.invalidUrl Operation.clientInit s.root.toString notBase))
  else if maxPermits < max s.maxConnections 1 then .error .tooManyPermits
  else .ok ⟨s.root, s.excluded, max s.maxConnections 1⟩

/-- The URL below `root` with these segments. A query of the root is dropped. -/
def endpoint (operation : String) (root : Url) (segments : List String) : Except Failure Url :=
  match root.path with
  | .segments parts =>
      .ok { root with
        query := none
        path := .segments (segments.foldl (Url.appendSegment root.kind) (Url.popIfEmpty parts)) }
  | .opaqueText _ => .error (.invalidUrl operation root.toString notBase)

/-- The same URL with one pair as its query. -/
def withPair (url : Url) (name value : String) : Url :=
  { url with query := some (String.ofList (Url.Form.encodePair name value)) }

/-- The text of a successful response. -/
def send (operation : String) (method : Method) (url : Url) (parts : List Part) :
    Dialogue (Except Failure String) :=
  (exchange method url parts).map fun
    | .error cause => .error (.transport operation url.toString cause)
    | .ok response =>
        if !response.isSuccess then .error (.status operation url.toString response.status)
        else if response.complete then .ok response.text
        else .error (.transport operation url.toString .decoding)

/-- Sends a request to a URL, if there is one, and reads the text of the response. -/
def request {α : Type} (operation : String) (method : Method) (url : Except Failure Url)
    (parts : List Part) (parse : String → Except Failure α) : Dialogue (Except Failure α) :=
  match url with
  | .error e => .done (.error e)
  | .ok url => (send operation method url parts).map (·.bind parse)

namespace Client

def listUrl (c : Client) (locale : String) : Except Failure Url :=
  (endpoint Operation.listLicenses c.root [""]).map (withPair · "locale" locale)

def licenseUrl (c : Client) (id : String) : Except Failure Url :=
  endpoint Operation.getLicense c.root ["license", id]

def issueUrl (c : Client) (id : String) : Except Failure Url :=
  endpoint Operation.resolveUri c.root ["license", id, "issue"]

def detailsUrl (c : Client) (uri : String) : Except Failure Url :=
  (endpoint Operation.fetchDocument c.root ["details"]).map (withPair · "license-uri" uri)

/-- The identifiers of the offered classes, less the excluded ones. -/
def tryList (c : Client) (locale : String) : Dialogue (Except Failure (List String)) :=
  request Operation.listLicenses .get (c.listUrl locale) [] (parseLicenseIds c.excluded)

/-- One class with its questions. -/
def tryGet (c : Client) (id : String) : Dialogue ClassResult :=
  request Operation.getLicense .get (c.licenseUrl id) [] (LicenseClass.parse id)

/-- The URI of the license that the answers select. -/
def tryResolve (c : Client) (id locale : String) (answers : Answers) :
    Dialogue (Except Failure String) :=
  match answerPayload id locale answers with
  | .error e => .done (.error e)
  | .ok payload =>
      request Operation.resolveUri .post (c.issueUrl id) [⟨answersPart, payload⟩] parseLicenseUri

/-- The document that describes an issued license. Its URI must be one, and is sent as it is
spelled. -/
def tryDocument (c : Client) (uri : String) : Dialogue (Except Failure Markup.Document) :=
  match Url.parse uri with
  | .error e => .done (.error (.invalidUrl Operation.fetchDocument uri e.message))
  | .ok _ =>
      request Operation.fetchDocument .get (c.detailsUrl uri) [] (readDocument Operation.fetchDocument)

/-- A value and what was written to the log. -/
abbrev Logged (α : Type) := α × List Log.Line

/-- Puts a log line and `empty` in place of a failure. -/
def orElse {α β : Type} (value : α → β) (empty : β) (line : Failure → List Log.Line) :
    Except Failure α → Logged β
  | .ok a => (value a, [])
  | .error e => (empty, line e)

def listFailure (locale : String) (e : Failure) : List Log.Line :=
  [⟨.error, "could not retrieve license list",
    [("operation", .quoted Operation.listLicenses), ("locale", .quoted locale),
      ("error", .bare e.message)]⟩]

/-- That no license is issued for some answers is no matter for the log. -/
def resolveFailure (id : String) (answers : Answers) (e : Failure) : List Log.Line :=
  if e.kind = .notFound then []
  else [⟨.error, "could not retrieve license URI",
    [("operation", .quoted Operation.resolveUri), ("id", .quoted id),
      ("answers", .bare answers.toString), ("error", .bare e.message)]⟩]

def documentFailure (uri : String) (e : Failure) : List Log.Line :=
  [⟨.error, "could not retrieve license document",
    [("operation", .quoted Operation.fetchDocument), ("uri", .quoted uri),
      ("error", .bare e.message)]⟩]

def list (c : Client) (locale : String) : Dialogue (Logged (List String)) :=
  (c.tryList locale).map (orElse id [] (listFailure locale))

def get (c : Client) (id : String) : Dialogue (Logged (Option LicenseClass)) :=
  (c.tryGet id).map (orElse some none fun e => [Catalog.failureLine (.quoted id) e])

def resolve (c : Client) (id locale : String) (answers : Answers) :
    Dialogue (Logged (Option String)) :=
  (c.tryResolve id locale answers).map (orElse some none (resolveFailure id answers))

def document (c : Client) (uri : String) : Dialogue (Logged (Option Markup.Document)) :=
  (c.tryDocument uri).map (orElse some none (documentFailure uri))

end Client

end LicenseChooser
