import LicenseChooser.Markup.Attribute
import LicenseChooser.Markup.Token

/-!
What happens while a text is read: tags with decoded attributes, decoded character data, and the
point where reading fails. An end tag is checked against the innermost open name, so in a list of
events every `close` has its `open`. Names lose their prefix here and not before, because end tags
are compared in full.
-/

namespace LicenseChooser.Markup

open Text

inductive Event where
  | open (name : String) (attributes : List (String × String))
  | single (name : String) (attributes : List (String × String))
  | close
  | text (content : String)
  | cdata (content : String)
  | aside
  | failed (cause : MarkupError)
  deriving DecidableEq, Repr

/-- The full name with which a tag begins. It may be empty. -/
def tagName (raw : List Char) : List Char := raw.takeWhile (!isSpace ·)

/-- The attributes of a tag; positions count from its name. -/
def tagAttributes (raw : List Char) : Except MarkupError (List (String × String)) :=
  readAttributes [] (byteLength (tagName raw)) (raw.dropWhile (!isSpace ·))

/-- The name in an end tag: what it holds less blanks at the end, which are kept when there is
nothing else. -/
def endName (raw : List Char) : List Char :=
  if raw.all isSpace then raw else (raw.reverse.dropWhile isSpace).reverse

/-- Why an end tag with this name closes nothing. -/
def endError (opened : List (List Char)) (found : List Char) : MarkupError :=
  match opened with
  | [] => .unmatchedEnd (String.ofList found)
  | expected :: _ => .mismatchedEnd (String.ofList expected) (String.ofList found)

/-- The events of a token list inside the `opened` elements, innermost first. -/
def events (opened : List (List Char)) : List Token → List Event
  | [] => []
  | .open raw :: rest =>
      match tagAttributes raw with
      | .ok attributes =>
          .open (String.ofList (localName (tagName raw))) attributes ::
            events (tagName raw :: opened) rest
      | .error e => [.failed e]
  | .single raw :: rest =>
      match tagAttributes raw with
      | .ok attributes =>
          .single (String.ofList (localName (tagName raw))) attributes :: events opened rest
      | .error e => [.failed e]
  | .close raw :: rest =>
      if opened.head? = some (endName raw) then .close :: events opened.tail rest
      else [.failed (endError opened (endName raw))]
  | .text raw :: rest =>
      match unescape raw with
      | .ok content => .text (String.ofList content) :: events opened rest
      | .error e => [.failed (.entity e)]
  | .cdata content :: rest => .cdata (String.ofList content) :: events opened rest
  | .aside :: rest => .aside :: events opened rest
  | .broken e :: _ => [.failed e]

/-- The events of a text. A byte order mark at its start is not part of it. -/
def read (cs : List Char) : List Event :=
  events [] (scan (if cs.head? = some '\uFEFF' then cs.tail else cs))

end LicenseChooser.Markup
