/-!
Colours and weights of texts on a terminal. Without colours a styled text is the text itself.
-/

namespace LicenseChooser.Report

inductive Color where
  | red
  | green
  | cyan
  deriving DecidableEq, Repr

def Color.code : Color → String
  | red => "31"
  | green => "32"
  | cyan => "36"

inductive Weight where
  | bold
  | dimmed
  deriving DecidableEq, Repr

def Weight.code : Weight → String
  | bold => "1"
  | dimmed => "2"

structure Style where
  weight : Option Weight
  color : Option Color
  deriving DecidableEq, Repr

def escape : String := "\x1b["

def reset : String := escape ++ "0m"

namespace Style

def bold : Style := ⟨some .bold, none⟩

def dimmed : Style := ⟨some .dimmed, none⟩

def colored (c : Color) : Style := ⟨none, some c⟩

def codes (s : Style) : List String := (s.weight.map Weight.code).toList ++ (s.color.map Color.code).toList

/-- What switches the style on. -/
def opening (s : Style) : String := escape ++ ";".intercalate s.codes ++ "m"

/-- A text in a style, padded inside it to a number of characters. Where the text itself ends a
style, this one goes on. -/
def applyPadded (s : Style) (colors : Bool) (width : Nat) (text : String) : String :=
  let padding := String.ofList (List.replicate (width - text.length) ' ')
  if !colors then text ++ padding
  else
    let inner := (reset ++ s.opening).intercalate (text.splitOn reset)
    let innerPadding := String.ofList (List.replicate (width - inner.length) ' ')
    s.opening ++ inner ++ innerPadding ++ reset

def apply (s : Style) (colors : Bool) (text : String) : String := s.applyPadded colors 0 text

end Style

end LicenseChooser.Report
