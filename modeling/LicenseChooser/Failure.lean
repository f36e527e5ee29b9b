import LicenseChooser.Http.Message
import LicenseChooser.Markup.Error

/-!
Why an operation on the license service failed. Each failure names its operation, so one line of a
log is enough to find the call.
-/

namespace LicenseChooser

namespace Operation

def listLicenses : String := "list_licenses"

def getLicense : String := "get_license"

def resolveUri : String := "resolve_license_uri"

def fetchDocument : String := "fetch_license_document"

def clientInit : String := "client_init"

end Operation

inductive Failure where
  | transport (operation url : String) (cause : Http.TransportError)
  | status (operation url : String) (code : Nat)
  | invalidUrl (operation url reason : String)
  | malformed (operation : String) (cause : Markup.DocumentError)
  | missing (operation node : String)
  | invalidAnswerKey (key : String)
  | invalidLicenseId (id : String)
  deriving DecidableEq, Repr

/-- Where a failure lies: on the way, in the response, in what it should hold, or in the input. -/
inductive Failure.Kind where
  | transport
  | parse
  | notFound
  | invalidInput
  deriving DecidableEq, Repr

namespace Failure

def kind : Failure → Kind
  | .transport .. | .status .. => .transport
  | .malformed .. => .parse
  | .missing .. => .notFound
  | .invalidUrl .. | .invalidAnswerKey .. | .invalidLicenseId .. => .invalidInput

def message : Failure → String
  | .transport operation url cause =>
      operation ++ ": request to " ++ url ++ " failed: " ++ cause.message
  | .status operation url code => operation ++ ": " ++ url ++ " returned HTTP " ++ toString code
  | .invalidUrl operation url reason => operation ++ ": invalid URL " ++ url ++ ": " ++ reason
  | .malformed operation cause => operation ++ ": malformed XML response: " ++ cause.message
  | .missing operation node => operation ++ ": expected node `" ++ node ++ "` not found"
  | .invalidAnswerKey key => "answer key `" ++ key ++ "` is not a valid XML element name"
  | .invalidLicenseId id =>
      "license id `" ++ id ++ "` does not form a valid element name `license-" ++ id ++ "`"

end Failure

end LicenseChooser
