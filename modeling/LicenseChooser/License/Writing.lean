import LicenseChooser.License.Summary
import LicenseChooser.Markup.Source

/-!
A license class as a document. Every text is written in full, so an empty label is an element
without content and not a single tag.
-/

namespace LicenseChooser

open Markup

def Choice.source (c : Choice) (rest : Source) : Source :=
  .element "enum" [("id", c.id)] false
    (.leaf "label" c.label (.leaf "description" c.description .nil)) rest

def Question.source (q : Question) (rest : Source) : Source :=
  .element "field" [("id", q.id)] false
    (.leaf "label" q.label
      (.leaf "description" q.description (.ofList (q.choices.map Choice.source)))) rest

def LicenseClass.source (l : LicenseClass) : Source :=
  .element "licenseclass" [("id", l.id)] false
    (.leaf "label" l.label (.ofList (l.questions.map Question.source))) .nil

def LicenseClass.toXml (l : LicenseClass) : String := l.source.toXml

end LicenseChooser
