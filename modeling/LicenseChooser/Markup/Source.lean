import LicenseChooser.Markup.Element
import LicenseChooser.Markup.Entity

/-!
Content as it is written: qualified names, character data that is escaped or stands in a CDATA
section, and the choice between the two forms of an element without content. Printing is one
function on it; every document that the library sends or shows is printed by it.
-/

namespace LicenseChooser.Markup

inductive Source where
  | nil
  | text (characters : String) (rest : Source)
  | cdata (characters : String) (rest : Source)
  /-- With `short` an element without content is a single tag. -/
  | element (name : String) (attributes : List (String × String)) (short : Bool)
      (inside rest : Source)
  deriving DecidableEq, Repr

namespace Source

/-- One attribute, after the blank that separates it from what stands before. -/
def printAttribute (a : String × String) : List Char :=
  ' ' :: a.1.toList ++ '=' :: '"' :: escape a.2.toList ++ ['"']

def printAttributes (attributes : List (String × String)) : List Char :=
  attributes.flatMap printAttribute

def print : Source → List Char
  | nil => []
  | text s rest => escape s.toList ++ rest.print
  | cdata s rest =>
      ['<', '!', '[', 'C', 'D', 'A', 'T', 'A', '['] ++ s.toList ++ [']', ']', '>'] ++ rest.print
  | element name attributes short inside rest =>
      '<' :: name.toList ++ printAttributes attributes ++
        (if short && inside == nil then ['/', '>']
          else '>' :: inside.print ++ '<' :: '/' :: name.toList ++ ['>']) ++
        rest.print

/-- An element that holds one text. -/
def leaf (name characters : String) (rest : Source) : Source :=
  element name [] false (text characters nil) rest

/-- The sources one after the other. -/
def ofList (items : List (Source → Source)) : Source := items.foldr (fun item rest => item rest) nil

def toXml (s : Source) : String := String.ofList s.print

end Source

end LicenseChooser.Markup
