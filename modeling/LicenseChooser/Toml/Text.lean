import LicenseChooser.Text.Numeral
import LicenseChooser.Text.Scan
import LicenseChooser.Toml.Fault

/-!
The four kinds of TOML string. Each reader is given what follows the opening quotes and returns the
text and what follows the closing ones. A line break in a text is always one character.
-/

namespace LicenseChooser.Toml

open Text

def isBlank (c : Char) : Bool := c == ' ' || c == '\t'

/-- Every character but the control characters; of these a tab is allowed. -/
def isAllowed (c : Char) : Bool := c == '\t' || (0x20 ≤ c.toNat && c.toNat != 0x7F)

/-- What follows a line break, if there is one. -/
def lineBreak? : List Char → Option (List Char)
  | '\n' :: rest => some rest
  | '\r' :: '\n' :: rest => some rest
  | _ => none

theorem length_of_lineBreak {cs rest : List Char} (h : lineBreak? cs = some rest) :
    rest.length < cs.length := by
  unfold lineBreak? at h
  split at h
  · obtain rfl := Option.some.inj h
    simp only [List.length_cons]
    omega
  · obtain rfl := Option.some.inj h
    simp only [List.length_cons]
    omega
  · cases h

/-- A text, and what follows it. -/
abbrev Reading (α : Type) := Except Fault (α × List Char)

/-- What follows a character that cannot be read. Of one past ASCII no part was read. -/
def pastUnread (c : Char) (rest : List Char) : List Char :=
  if c.toNat < 0x80 then rest else c :: rest

/-- The character with a number of `count` hexadecimal digits. -/
def numbered (count : Nat) (label : String) (cs : List Char) : Reading Char :=
  match numeralValue? 16 (cs.take count) with
  | some n =>
      if count ≤ cs.length ∧ n.isValidChar then .ok (.ofNat n, cs.drop count)
      else .error (.labelled cs label [])
  | none => .error (.labelled cs label [])

/-- What may follow a backslash. -/
def escapeNames : List String :=
  ["`b`", "`f`", "`n`", "`r`", "`t`", "`u`", "`U`", "`\\`", "`\"`"]

/-- The character that an escape stands for, from what follows its backslash. -/
def escape : List Char → Reading Char
  | [] => .error ⟨1, none, [], none⟩
  | 'b' :: rest => .ok ('\x08', rest)
  | 't' :: rest => .ok ('\t', rest)
  | 'n' :: rest => .ok ('\n', rest)
  | 'f' :: rest => .ok ('\x0c', rest)
  | 'r' :: rest => .ok ('\r', rest)
  | '"' :: rest => .ok ('"', rest)
  | '\\' :: rest => .ok ('\\', rest)
  | 'u' :: rest => numbered 4 "unicode 4-digit hex code" rest
  | 'U' :: rest => numbered 8 "unicode 8-digit hex code" rest
  | c :: rest => .error (.labelled (pastUnread c rest) "escape sequence" escapeNames)

theorem length_of_numbered {count : Nat} {label : String} {cs rest : List Char} {c : Char}
    (h : numbered count label cs = .ok (c, rest)) : rest.length ≤ cs.length := by
  unfold numbered at h
  split at h
  · split at h
    · cases h
      simp only [List.length_drop]
      omega
    · cases h
  · cases h

theorem length_of_escape {cs rest : List Char} {c : Char} (h : escape cs = .ok (c, rest)) :
    rest.length < cs.length := by
  unfold escape at h
  split at h
  case h_1 | h_11 => cases h
  case h_9 | h_10 =>
    have := length_of_numbered h
    simp only [List.length_cons]
    omega
  all_goals cases h; simp only [List.length_cons]; omega

/-- Blanks and line breaks skipped. -/
def skipSpace : List Char → List Char
  | '\n' :: rest => skipSpace rest
  | '\r' :: '\n' :: rest => skipSpace rest
  | c :: rest => if isBlank c then skipSpace rest else c :: rest
  | [] => []

theorem length_skipSpace_le (cs : List Char) : (skipSpace cs).length ≤ cs.length := by
  fun_induction skipSpace cs <;> simp_all <;> omega

/-- What follows a backslash at the end of a line: the next text, on whatever line. -/
def continuation? (cs : List Char) : Option (List Char) :=
  (lineBreak? (cs.dropWhile isBlank)).map skipSpace

theorem length_of_continuation {cs rest : List Char} (h : continuation? cs = some rest) :
    rest.length < cs.length := by
  obtain ⟨next, hn, rfl⟩ := Option.map_eq_some_iff.1 h
  have := length_of_lineBreak hn
  have := length_dropWhile_le isBlank cs
  have := length_skipSpace_le next
  omega

/-- Puts a character before a text that was read. -/
def prepend (c : Char) : List Char × List Char → List Char × List Char
  | (text, rest) => (c :: text, rest)

def basicLabel : String := "basic string"

/-- A text in double quotes. -/
def basicText (cs : List Char) : Reading (List Char) :=
  match cs with
  | [] => .error (.labelled [] basicLabel [])
  | '"' :: rest => .ok ([], rest)
  | '\\' :: rest =>
      match _h : escape rest with
      | .ok (c, after) => (basicText after).map (prepend c)
      | .error f => .error (f.inside basicLabel)
  | c :: rest =>
      if isAllowed c then (basicText rest).map (prepend c)
      else .error (.labelled (c :: rest) basicLabel [])
  termination_by cs.length
  decreasing_by
    · have := length_of_escape _h
      simp only [List.length_cons]
      omega
    · simp

/-- Whether the text of a long string goes on after quotes that do not close it. -/
def continues (quote : Char) (cs : List Char) : Bool :=
  match cs.dropWhile (· == quote) with
  | [] => false
  | ['\\'] => quote == '\''
  | '\r' :: rest => rest.head? == some '\n'
  | c :: _ => isAllowed c || c == '\n'

def longBasicLabel : String := "multiline basic string"

/-- A text in three double quotes. Up to two more before the closing ones belong to it. -/
def longBasicText (cs : List Char) : Reading (List Char) :=
  match cs with
  | [] => .error (.labelled [] longBasicLabel [])
  | '"' :: '"' :: '"' :: '"' :: '"' :: rest => .ok (['"', '"'], rest)
  | '"' :: '"' :: '"' :: '"' :: rest => .ok (['"'], rest)
  | '"' :: '"' :: '"' :: rest => .ok ([], rest)
  | '"' :: rest =>
      if continues '"' rest then (longBasicText rest).map (prepend '"')
      else .error (.labelled ('"' :: rest) longBasicLabel [])
  | '\\' :: rest =>
      match _h : continuation? rest with
      | some after => longBasicText after
      | none =>
          match _h : escape rest with
          | .ok (c, after) => (longBasicText after).map (prepend c)
          | .error f => .error (f.inside longBasicLabel)
  | '\r' :: '\n' :: rest => (longBasicText rest).map (prepend '\n')
  | c :: rest =>
      if isAllowed c || c == '\n' then (longBasicText rest).map (prepend c)
      else .error (.labelled (c :: rest) longBasicLabel [])
  termination_by cs.length
  decreasing_by
    · simp
    · have := length_of_continuation _h
      simp only [List.length_cons]
      omega
    · have := length_of_escape _h
      simp only [List.length_cons]
      omega
    · simp only [List.length_cons]
      omega
    · simp

def isLiteral (c : Char) : Bool := isAllowed c && c != '\''

/-- A text in single quotes, in which nothing is escaped. -/
def literalText (cs : List Char) : Reading (List Char) :=
  match cs.dropWhile isLiteral with
  | '\'' :: rest => .ok (cs.takeWhile isLiteral, rest)
  | rest => .error (.labelled rest "literal string" [])

def longLiteralLabel : String := "multiline literal string"

/-- A text in three single quotes. -/
def longLiteralText : List Char → Reading (List Char)
  | [] => .error (.labelled [] longLiteralLabel [])
  | '\'' :: '\'' :: '\'' :: '\'' :: '\'' :: rest => .ok (['\'', '\''], rest)
  | '\'' :: '\'' :: '\'' :: '\'' :: rest => .ok (['\''], rest)
  | '\'' :: '\'' :: '\'' :: rest => .ok ([], rest)
  | '\'' :: rest =>
      if continues '\'' rest then (longLiteralText rest).map (prepend '\'')
      else .error (.labelled ('\'' :: rest) longLiteralLabel [])
  | '\r' :: '\n' :: rest => (longLiteralText rest).map (prepend '\n')
  | c :: rest =>
      if isAllowed c || c == '\n' then (longLiteralText rest).map (prepend c)
      else .error (.labelled (c :: rest) longLiteralLabel [])

/-- A string of any kind, from its opening quotes on. A line break right after three of them is no
part of the text. -/
def text (cs : List Char) : Reading String :=
  let read := match cs with
    | '"' :: '"' :: '"' :: rest => longBasicText ((lineBreak? rest).getD rest)
    | '"' :: rest => basicText rest
    | '\'' :: '\'' :: '\'' :: rest => longLiteralText ((lineBreak? rest).getD rest)
    | '\'' :: rest => literalText rest
    | _ => .error (.bare cs)
  read.map fun (text, rest) => (String.ofList text, rest)

end LicenseChooser.Toml
