import LicenseChooser.Failure
import LicenseChooser.License.Summary
import LicenseChooser.Markup.Document

/-!
What the service's documents say: the list of classes, one class with its questions, and an issued
license. Identifiers and texts are trimmed; a blank identifier is none.
-/

namespace LicenseChooser

open Markup Text

/-- The trimmed text of the first child with this name; empty without one. -/
def labelText (e : Element) (name : String) : String := ((e.childText? name).map trim).getD ""

/-- The trimmed value of the attribute `id`, unless it is blank. -/
def identifier? (e : Element) : Option String := ((e.attribute? "id").map trim).filter (· != "")

def requireIdentifier (e : Element) (node : String) : Except Failure String :=
  match identifier? e with
  | some id => .ok id
  | none => .error (.missing Operation.getLicense node)

def Choice.ofElement (e : Element) : Except Failure Choice := do
  return ⟨← requireIdentifier e "enum/@id", labelText e "label", labelText e "description"⟩

/-- A defect of a choice is found before one of the question itself. -/
def Question.ofElement (e : Element) : Except Failure Question := do
  let choices ← (e.childrenNamed "enum").mapM Choice.ofElement
  let id ← requireIdentifier e "field/@id"
  return ⟨id, labelText e "label", labelText e "description", choices⟩

/-- The class that an element describes, under the identifier it was asked for. -/
def LicenseClass.ofElement (id : String) (e : Element) : Except Failure LicenseClass := do
  let questions ← (e.childrenNamed "field").mapM Question.ofElement
  return ⟨id, labelText e "label", questions⟩

def readDocument (operation body : String) : Except Failure Document :=
  (Document.parse body).mapError (.malformed operation)

def LicenseClass.parse (id body : String) : Except Failure LicenseClass := do
  let d ← readDocument Operation.getLicense body
  match d.find? "licenseclass" with
  | some e => LicenseClass.ofElement id e
  | none => throw (.missing Operation.getLicense "licenseclass")

/-- The identifiers that a document lists, in its order. -/
def Markup.Document.licenseIds (d : Document) : List String :=
  (d.select "licenses" "license").filterMap identifier?

/-- The listed identifiers that are not excluded. -/
def parseLicenseIds (excluded : List String) (body : String) : Except Failure (List String) :=
  (readDocument Operation.listLicenses body).map fun d =>
    d.licenseIds.filter fun id => !excluded.contains id

/-- The first text that is not blank among the `name` children of results. -/
def Markup.Document.resultText? (d : Document) (name : String) : Option String :=
  ((d.select "result" name).map fun e => trim e.text).find? (· != "")

def parseLicenseUri (body : String) : Except Failure String := do
  let d ← readDocument Operation.resolveUri body
  match d.resultText? "license-uri" with
  | some uri => return uri
  | none => throw (.missing Operation.resolveUri "result/license-uri")

/-- The name of the license that a document describes, or else its URI. -/
def Markup.Document.licenseName? (d : Document) : Option String :=
  (d.resultText? "license-name").or (d.resultText? "license-uri")

end LicenseChooser
