import LicenseChooser.Failure
import LicenseChooser.License.Summary
import LicenseChooser.Log

/-!
A catalog from the results for each listed class. Every identifier ends up in one of its two lists,
in the order of the results.
-/

namespace LicenseChooser

/-- The result of asking for one class. -/
abbrev ClassResult := Except Failure LicenseClass

namespace Catalog

def ofResults : List (String × ClassResult) → Catalog
  | [] => ⟨[], []⟩
  | (_, .ok license) :: rest =>
      let c := ofResults rest
      { c with licenses := license :: c.licenses }
  | (id, .error _) :: rest =>
      let c := ofResults rest
      { c with failed := id :: c.failed }

/-- What the log says about a class that could not be retrieved. -/
def failureLine (id : Log.Field) (e : Failure) : Log.Line :=
  ⟨.error, "could not retrieve license",
    [("operation", .quoted Operation.getLicense), ("id", id), ("error", .bare e.message)]⟩

/-- The log of an assembly: each failure, and then whether anything is missing. -/
def assemblyLog (results : List (String × ClassResult)) : List Log.Line :=
  let c := ofResults results
  results.filterMap (fun
    | (id, .error e) => some (failureLine (.bare id) e)
    | (_, .ok _) => none) ++
    if c.isComplete then []
    else [⟨.warn, "license catalog is incomplete",
      [("retrieved", .bare (toString c.licenses.length)),
        ("failed", .bare (toString c.failed.length))]⟩]

end Catalog

end LicenseChooser
