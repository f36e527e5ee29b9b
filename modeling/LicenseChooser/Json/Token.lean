import LicenseChooser.Text.Numeral
import LicenseChooser.Text.Scan

/-!
The tokens of a JSON text. Commas and colons are checked and leave no token; where the text stops
being JSON the tokens end with `broken`.
-/

namespace LicenseChooser.Json

open Text

/-- A number as written. -/
structure Number where
  negative : Bool
  whole : List Char
  fraction : List Char
  exponent : Option (Bool × List Char)
  deriving DecidableEq, Repr

inductive Token where
  | null
  | boolean (value : Bool)
  | number (value : Number)
  /-- A string; absent when it holds half of a surrogate pair. -/
  | text (value : Option String)
  | key (name : Option String)
  | openArray
  | closeArray
  | openObject
  | closeObject
  | broken
  deriving DecidableEq, Repr

def isSpace (c : Char) : Bool := c == ' ' || c == '\n' || c == '\t' || c == '\r'

/-- The number of a 16-bit unit in four hexadecimal digits. -/
def unit? (a b c d : Char) : Option Nat := numeralValue? 16 [a, b, c, d]

/-- What a short escape stands for. -/
def shortEscape? : Char → Option Char
  | '"' => some '"'
  | '\\' => some '\\'
  | '/' => some '/'
  | 'b' => some '\x08'
  | 'f' => some '\x0c'
  | 'n' => some '\n'
  | 'r' => some '\r'
  | 't' => some '\t'
  | _ => none

/-- The characters of a string, each absent where half of a surrogate pair stands alone. -/
inductive Piece where
  | char (value : Char)
  | unit (value : Nat)

/-- The pieces of a string up to its closing quote, and what follows it. -/
def pieces? (cs : List Char) : Option (List Piece × List Char) :=
  match cs with
  | [] => none
  | '"' :: rest => some ([], rest)
  | '\\' :: 'u' :: a :: b :: c :: d :: rest => do
      let unit ← unit? a b c d
      let (others, after) ← pieces? rest
      return (.unit unit :: others, after)
  | '\\' :: c :: rest => do
      let char ← shortEscape? c
      let (others, after) ← pieces? rest
      return (.char char :: others, after)
  | c :: rest =>
      if c.toNat < 0x20 ∨ c = '\\' then none
      else do
        let (others, after) ← pieces? rest
        return (.char c :: others, after)

/-- The text that pieces make up, in which each high surrogate must be followed by a low one. -/
def assemble? : List Piece → Option (List Char)
  | [] => some []
  | .char c :: rest => (assemble? rest).map (c :: ·)
  | .unit high :: .unit low :: rest =>
      if 0xD800 ≤ high ∧ high ≤ 0xDBFF then
        if 0xDC00 ≤ low ∧ low ≤ 0xDFFF then
          (assemble? rest).map (.ofNat (0x10000 + (high - 0xD800) * 0x400 + (low - 0xDC00)) :: ·)
        else none
      else if high.isValidChar then (assemble? (.unit low :: rest)).map (.ofNat high :: ·)
      else none
  | .unit only :: rest =>
      if only.isValidChar then (assemble? rest).map (.ofNat only :: ·) else none

/-- A string after its opening quote. -/
def string? (cs : List Char) : Option (Option String × List Char) :=
  (pieces? cs).map fun (ps, rest) => ((assemble? ps).map String.ofList, rest)

/-- The digits at the start, of which there is at least one. -/
def digits? (cs : List Char) : Option (List Char × List Char) :=
  let digits := cs.takeWhile Char.isDigit
  if digits.isEmpty then none else some (digits, cs.dropWhile Char.isDigit)

/-- A whole number does not begin with zero unless it is zero. -/
def whole? (cs : List Char) : Option (List Char × List Char) :=
  (digits? cs).filter fun (digits, _) => digits.head? != some '0' || digits.length == 1

def fraction? (cs : List Char) : Option (List Char × List Char) :=
  match cs with
  | '.' :: rest => digits? rest
  | _ => some ([], cs)

def exponent? (cs : List Char) : Option (Option (Bool × List Char) × List Char) :=
  match cs with
  | c :: rest =>
      if c = 'e' ∨ c = 'E' then
        match rest with
        | '-' :: more => (digits? more).map fun (digits, after) => (some (true, digits), after)
        | '+' :: more => (digits? more).map fun (digits, after) => (some (false, digits), after)
        | more => (digits? more).map fun (digits, after) => (some (false, digits), after)
      else some (none, cs)
  | [] => some (none, [])

def number? (cs : List Char) : Option (Number × List Char) := do
  let negative := cs.head? = some '-'
  let (whole, afterWhole) ← whole? (if negative then cs.tail else cs)
  let (fraction, afterFraction) ← fraction? afterWhole
  let (exponent, rest) ← exponent? afterFraction
  return (⟨negative, whole, fraction, exponent⟩, rest)

/-- What follows a word. -/
def word? (word cs : List Char) : Option (List Char) :=
  if word.isPrefixOf cs then some (cs.drop word.length) else none

/-- The token at the start of a value that is no container. -/
def scalar? (cs : List Char) : Option (Token × List Char) :=
  match cs with
  | '"' :: rest => (string? rest).map fun (value, after) => (.text value, after)
  | 'n' :: _ => (word? ['n', 'u', 'l', 'l'] cs).map (.null, ·)
  | 't' :: _ => (word? ['t', 'r', 'u', 'e'] cs).map (.boolean true, ·)
  | 'f' :: _ => (word? ['f', 'a', 'l', 's', 'e'] cs).map (.boolean false, ·)
  | _ => (number? cs).map fun (value, after) => (.number value, after)

/-- The kinds of container that can be open. -/
inductive Container where
  | array
  | object
  deriving DecidableEq, Repr

/-- What may come next: a value, a key, a colon, or what follows a value. With `first` the container
just opened may also close. -/
inductive Place where
  | value
  | first (container : Container)
  | key
  | colon
  | after
  deriving DecidableEq, Repr

/-- What one step of reading gives: tokens, the containers then open, the next place, and the rest
of the text. -/
structure Step where
  tokens : List Token
  opened : List Container
  place : Place
  rest : List Char

/-- A value begins. -/
def stepValue (opened : List Container) (cs : List Char) : Option Step :=
  match cs with
  | '[' :: rest => some ⟨[.openArray], .array :: opened, .first .array, rest⟩
  | '\x7b' :: rest => some ⟨[.openObject], .object :: opened, .first .object, rest⟩
  | _ => (scalar? cs).map fun (token, rest) => ⟨[token], opened, .after, rest⟩

def stepKey (opened : List Container) (cs : List Char) : Option Step :=
  match cs with
  | '"' :: rest => (string? rest).map fun (name, after) => ⟨[.key name], opened, .colon, after⟩
  | _ => none

/-- One step at a character that is no blank. -/
def step (opened : List Container) (place : Place) (cs : List Char) : Option Step :=
  match place, opened, cs with
  | .first .array, _ :: outer, ']' :: rest => some ⟨[.closeArray], outer, .after, rest⟩
  | .first .object, _ :: outer, '\x7d' :: rest => some ⟨[.closeObject], outer, .after, rest⟩
  | .first .array, _, _ => stepValue opened cs
  | .first .object, _, _ => stepKey opened cs
  | .value, _, _ => stepValue opened cs
  | .key, _, _ => stepKey opened cs
  | .colon, _, ':' :: rest => some ⟨[], opened, .value, rest⟩
  | .after, .array :: _, ',' :: rest => some ⟨[], opened, .value, rest⟩
  | .after, .object :: _, ',' :: rest => some ⟨[], opened, .key, rest⟩
  | .after, .array :: outer, ']' :: rest => some ⟨[.closeArray], outer, .after, rest⟩
  | .after, .object :: outer, '\x7d' :: rest => some ⟨[.closeObject], outer, .after, rest⟩
  | _, _, _ => none

/-- The tokens of the rest of a text. -/
def scan (opened : List Container) (place : Place) (cs : List Char) : List Token :=
  match cs.dropWhile isSpace with
  | [] => if opened.isEmpty ∧ place = .after then [] else [.broken]
  | c :: tail =>
      match step opened place (c :: tail) with
      | none => [.broken]
      | some s =>
          if s.rest.length < cs.length then s.tokens ++ scan s.opened s.place s.rest
          else [.broken]
  termination_by cs.length

def tokens (s : String) : List Token := scan [] .value s.toList

end LicenseChooser.Json
