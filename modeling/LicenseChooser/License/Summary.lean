/-!
License classes and the questions that select among the licenses of a class.
-/

namespace LicenseChooser

/-- One answer that a question allows. -/
structure Choice where
  id : String
  label : String
  description : String
  deriving DecidableEq, Repr

/-- A question with a fixed list of answers. -/
structure Question where
  id : String
  label : String
  description : String
  choices : List Choice
  deriving DecidableEq, Repr

/-- A license class as it is offered to users. -/
structure LicenseClass where
  id : String
  label : String
  questions : List Question
  deriving DecidableEq, Repr

/-- The classes that were retrieved, and the identifiers of those that were not. -/
structure Catalog where
  licenses : List LicenseClass
  failed : List String
  deriving DecidableEq, Repr

def Catalog.isComplete (c : Catalog) : Bool := c.failed.isEmpty

end LicenseChooser
