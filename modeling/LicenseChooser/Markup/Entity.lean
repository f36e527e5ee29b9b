import LicenseChooser.Markup.Error
import LicenseChooser.Text.Blank
import LicenseChooser.Text.Numeral
import LicenseChooser.Text.Scan

/-!
References in character data and attribute values. Writing uses the five predefined entities and
nothing else; reading knows these five and numeric references.
-/

namespace LicenseChooser.Markup

open Text

/-- The written form of one character. -/
def escapeChar : Char → List Char
  | '<' => ['&', 'l', 't', ';']
  | '>' => ['&', 'g', 't', ';']
  | '&' => ['&', 'a', 'm', 'p', ';']
  | '\'' => ['&', 'a', 'p', 'o', 's', ';']
  | '"' => ['&', 'q', 'u', 'o', 't', ';']
  | c => [c]

def escape (cs : List Char) : List Char := cs.flatMap escapeChar

def predefined? (name : List Char) : Option Char :=
  if name = ['l', 't'] then some '<'
  else if name = ['g', 't'] then some '>'
  else if name = ['a', 'm', 'p'] then some '&'
  else if name = ['a', 'p', 'o', 's'] then some '\''
  else if name = ['q', 'u', 'o', 't'] then some '"'
  else none

/-- Character numbers are read as 32-bit words: from the left, the first digit that is none or
that takes the value over the limit decides, and at one digit the former wins. -/
def readWord (base value : Nat) : List Char → Except NumberError Nat
  | [] => .ok value
  | c :: rest =>
      match digitValue? base c with
      | none => .error .badDigit
      | some d =>
          if value * base + d < 0x100000000 then readWord base (value * base + d) rest
          else .error .tooLarge

/-- The number in a reference, without its radix mark. -/
def readNumber (base : Nat) : List Char → Except NumberError Nat
  | [] => .error .noDigits
  | c :: rest => if c = '+' ∨ c = '-' then .error .signed else readWord base 0 (c :: rest)

/-- The character with this number. -/
def scalar (value : Nat) : Except NumberError Char :=
  if value = 0 then .error .null
  else if value.isValidChar then .ok (Char.ofNat value)
  else .error (.notScalar value)

/-- The character that the body of a reference at byte `start` stands for. -/
def resolve (start : Nat) : List Char → Except EntityError Char
  | '#' :: 'x' :: digits => ((readNumber 16 digits).bind scalar).mapError .number
  | '#' :: digits => ((readNumber 10 digits).bind scalar).mapError .number
  | name =>
      match predefined? name with
      | some c => .ok c
      | none => .error (.unknown start (start + byteLength name) (String.ofList name))

/-- The rest of a text, which begins at byte `position`. A reference ends at the next `;`, which no
other `&` may precede. -/
def unescapeFrom (position : Nat) (cs : List Char) : Except EntityError (List Char) :=
  match cs with
  | [] => .ok []
  | c :: rest =>
      if c = '&' then
        let body := rest.takeWhile fun d => d != '&' && d != ';'
        match h : rest.dropWhile fun d => d != '&' && d != ';' with
        | ';' :: after => do
            let value ← resolve (position + 1) body
            return value :: (← unescapeFrom (position + byteLength body + 2) after)
        | _ => .error (.unterminated position (position + byteLength (c :: rest)))
      else do
        return c :: (← unescapeFrom (position + c.utf8Size) rest)
  termination_by cs.length
  decreasing_by
    · have := length_dropWhile_le (fun d => d != '&' && d != ';') rest
      rw [h] at this
      simp only [List.length_cons] at this ⊢
      omega
    · simp

def unescape (cs : List Char) : Except EntityError (List Char) := unescapeFrom 0 cs

end LicenseChooser.Markup
