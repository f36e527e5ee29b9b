import LicenseChooser.Answers.Basic
import LicenseChooser.Failure
import LicenseChooser.Markup.Source

/-!
The document that carries answers to the service. Every name in it must be a name without prefix in
ASCII; values may be anything, because they are escaped.
-/

namespace LicenseChooser

open Markup

/-- The name of the form part that carries the document. -/
def answersPart : String := "answers"

def isNameStart (c : Char) : Bool := c.isAlpha || c == '_'

def isNameChar (c : Char) : Bool := c.isAlphanum || c == '.' || c == '_' || c == '-'

def isElementName (name : String) : Bool :=
  match name.toList with
  | [] => false
  | c :: rest => isNameStart c && rest.all isNameChar

/-- The element that stands for a license class. -/
def classElement (id : String) : String := "license-" ++ id

def answersSource (id locale : String) (answers : List (String × String)) : Source :=
  .element "answers" [] false
    (.text " " (.leaf "locale" locale
      (.element (classElement id) [] false
        (.ofList (answers.map fun p => .leaf p.1 p.2)) .nil))) .nil

/-- The document for answers to the questions of a class. An identifier or key that is no name is
refused, the identifier first. -/
def answerPayload (id locale : String) (answers : Answers) : Except Failure String :=
  if !isElementName (classElement id) then .error (.invalidLicenseId id)
  else
    match answers.items.find? fun p => !isElementName p.1 with
    | some p => .error (.invalidAnswerKey p.1)
    | none => .ok (answersSource id locale answers.items).toXml

end LicenseChooser
