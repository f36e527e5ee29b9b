import LicenseChooser.Catalog.Client
import LicenseChooser.Http.Interleaving

/-!
The whole catalog: the list of classes, and then every class of it, side by side within the limit of
the client. Results are put together by position, so the order in which the requests finish shows in the
progress alone.
-/

namespace LicenseChooser

open Http

/-- What is reported while a catalog is retrieved. -/
inductive Retrieval.Event where
  | listed (count : Nat)
  | fetched (id : String)
  deriving DecidableEq, Repr

structure Retrieval where
  catalog : Catalog
  progress : List Retrieval.Event
  log : List Log.Line
  sent : List Request

/-- Retrieves every class for a locale. A class that cannot be retrieved is named as failed. -/
def Client.retrieve (c : Client) (server : Server) (schedule : List Nat) (locale : String) :
    Retrieval :=
  let ((ids, listLog), sent) := (c.list locale).run server []
  let run := Interleaving.run server c.permits schedule sent (ids.map c.tryGet)
  let results := ids.zip run.results
  { catalog := .ofResults results
    progress := .listed ids.length :: run.finished.filterMap fun i => ids[i]?.map .fetched
    log := listLog ++ Catalog.assemblyLog results
    sent := run.sent }

end LicenseChooser
