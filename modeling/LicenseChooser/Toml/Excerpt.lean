import LicenseChooser.Text.Blank
import LicenseChooser.Text.Scan
import LicenseChooser.Toml.Fault

/-!
The line of a text in which something is wrong, with a mark under the place.
-/

namespace LicenseChooser.Toml

open Text

/-- A place by its line and its column, both counted from zero. -/
structure Position where
  line : Nat
  column : Nat
  deriving DecidableEq, Repr

/-- The characters of the last line of a text. -/
def lastLine (cs : List Char) : List Char := (cs.reverse.takeWhile (· != '\n')).reverse

def countLines (cs : List Char) : Nat := (cs.filter (· == '\n')).length

/-- The place after `before`, where `next` is the character that follows. Columns are characters; only
before a character past ASCII are they bytes. The place at the end of a text is the one after its
last character, even if that ends a line. -/
def position (before : List Char) (next : Option Char) : Position :=
  match next with
  | some c =>
      let line := lastLine before
      ⟨countLines before, if c.toNat < 0x80 then line.length else byteLength line⟩
  | none =>
      match before.getLast? with
      | none => ⟨0, 0⟩
      | some _ => ⟨countLines before.dropLast, (lastLine before.dropLast).length + 1⟩

/-- What is said of a stretch of a text: where it is, its line, and the message. -/
def excerpt (text : String) (span : Span) (message : String) : String :=
  let cs := text.toList
  let before := cs.take (cs.length - span.start)
  let stretch := (cs.drop before.length).take (span.start - span.stop)
  let place := position before (cs.drop before.length).head?
  let content := ((splitWhere (· == '\n') cs)[place.line]?).getD []
  let marks := max 1 (min (byteLength stretch) (byteLength content - place.column))
  let number := toString (place.line + 1)
  let gutter := String.ofList (List.replicate (number.length + 1) ' ') ++ "|"
  "TOML parse error at line " ++ number ++ ", column " ++ toString (place.column + 1) ++ "\n" ++
    gutter ++ "\n" ++
    number ++ " | " ++ String.ofList content ++ "\n" ++
    gutter ++ String.ofList (List.replicate (place.column + 1) ' ' ++ List.replicate marks '^') ++
    "\n" ++ message ++ "\n"

/-- The character at which a text stops being TOML. -/
def Fault.span (f : Fault) : Span := ⟨f.left, f.left - 1⟩

end LicenseChooser.Toml
