import LicenseChooser.Catalog.Client

/-!
The settings of the program: where the service is and how it is called. Each has a default of its
own.
-/

namespace LicenseChooser

structure Settings where
  /-- The root as it is written; whether it is a URL shows only when a client is built. -/
  rootUrl : String
  excluded : List String
  maxConnections : Nat
  timeoutSeconds : Nat
  deriving DecidableEq, Repr

namespace Settings

def default : Settings :=
  ⟨"https://api.creativecommons.org/rest/1.5", ["recombo", "mark"], defaultMaxConnections,
    defaultTimeoutSeconds⟩

/-- What a client is built from, if the root is a URL. -/
def client (s : Settings) : Except Url.Error ClientSettings :=
  (Url.parse s.rootUrl).map fun root =>
    ⟨root, s.excluded, s.maxConnections, s.timeoutSeconds * 1000⟩

end Settings

end LicenseChooser
