import LicenseChooser.Text.Scan

/-!
The parameters of a media type. A text that does not follow the grammar to its end is no media type, and
none of its parameters counts.
-/

namespace LicenseChooser.Http.MediaType

open Text

def isTokenChar (c : Char) : Bool := c.isAlphanum || "!#$%&'*+-.^_\x60|~".toList.contains c

/-- What may stand between quotes. -/
def isQuotable (c : Char) : Bool := 0x20 ≤ c.toNat && c.toNat < 0x7F

/-- The token at the start of a text, and what follows it. -/
def token (cs : List Char) : List Char × List Char :=
  (cs.takeWhile isTokenChar, cs.dropWhile isTokenChar)

/-- The value behind an opening quote, and what follows the closing one. The first character is part of
the value whatever it is. -/
def quoted? : List Char → Option (List Char × List Char)
  | [] => none
  | c :: rest =>
      match rest.dropWhile fun d => d != '"' && isQuotable d with
      | '"' :: after =>
          if isQuotable c then some (c :: rest.takeWhile fun d => d != '"' && isQuotable d, after)
          else none
      | _ => none

/-- What may follow a value in quotes: the end, or a semicolon and more. -/
def afterQuoted? (cs : List Char) : Option (List Char) :=
  match cs.dropWhile (· == ' ') with
  | [] => some []
  | ';' :: rest => some rest
  | _ => none

/-- What may follow a value without quotes, which is empty at the end only. -/
def afterToken? (value cs : List Char) : Option (List Char) :=
  match cs with
  | [] => some []
  | ';' :: rest => if value.isEmpty then none else some rest
  | _ => none

/-- The value behind an equals sign, and the parameters after it. -/
def value? : List Char → Option (List Char × List Char)
  | '"' :: rest => do
      let (value, rest) ← quoted? rest
      return (value, ← afterQuoted? rest)
  | cs => do
      let (value, rest) := token cs
      return (value, ← afterToken? value rest)

theorem length_of_quoted? {cs value rest : List Char} (h : quoted? cs = some (value, rest)) :
    rest.length ≤ cs.length := by
  cases cs with
  | nil => cases h
  | cons c cs =>
      have hdrop := length_dropWhile_le (fun d => d != '"' && isQuotable d) cs
      rw [quoted?] at h
      split at h
      · rename_i after heq
        rw [heq, List.length_cons] at hdrop
        split at h
        · cases h
          exact Nat.le_succ_of_le (Nat.le_of_succ_le hdrop)
        · cases h
      · cases h

theorem length_of_afterQuoted? {cs rest : List Char} (h : afterQuoted? cs = some rest) :
    rest.length ≤ cs.length := by
  have hdrop := length_dropWhile_le (· == ' ') cs
  rw [afterQuoted?] at h
  split at h
  · cases h
    exact Nat.zero_le _
  · rename_i rest' heq
    rw [heq, List.length_cons] at hdrop
    cases h
    omega
  · cases h

theorem length_of_afterToken? {value cs rest : List Char} (h : afterToken? value cs = some rest) :
    rest.length ≤ cs.length := by
  rw [afterToken?.eq_def] at h
  split at h
  · cases h
    exact Nat.le_refl _
  · split at h
    · cases h
    · cases h
      exact Nat.le_succ _
  · cases h

theorem length_of_value? {cs value rest : List Char} (h : value? cs = some (value, rest)) :
    rest.length ≤ cs.length := by
  rw [value?.eq_def] at h
  split at h
  · obtain ⟨⟨v, mid⟩, hquoted, h⟩ := Option.bind_eq_some_iff.1 h
    obtain ⟨after, hafter, h⟩ := Option.bind_eq_some_iff.1 h
    cases h
    have hmid := length_of_quoted? hquoted
    have hrest := length_of_afterQuoted? hafter
    rw [List.length_cons]
    omega
  · obtain ⟨after, hafter, h⟩ := Option.bind_eq_some_iff.1 h
    cases h
    have hmid := length_dropWhile_le isTokenChar cs
    have hrest := length_of_afterToken? hafter
    exact Nat.le_trans hrest hmid

/-- The parameters in order, with names in lower case. -/
def parameters? (cs : List Char) : Option (List (String × String)) :=
  match cs with
  | [] => some []
  | ' ' :: rest => parameters? rest
  | cs =>
      match _hrest : (token cs).2 with
      | '=' :: rest =>
          match _hvalue : value? rest with
          | some (value, rest) => do
              let others ← parameters? rest
              if (token cs).1.isEmpty then none
              else return ((String.ofList (token cs).1).toLower, String.ofList value) :: others
          | none => none
      | _ => none
  termination_by cs.length
  decreasing_by
    · simp
    · have hlength := length_dropWhile_le isTokenChar cs
      have hshorter := length_of_value? _hvalue
      rw [token] at _hrest
      simp only at _hrest
      rw [_hrest, List.length_cons] at hlength
      omega

/-- The parameters of a media type: they follow two tokens with a slash between them. -/
def ofText? (text : String) : Option (List (String × String)) :=
  match token text.toList with
  | (_ :: _, '/' :: rest) =>
      match token rest with
      | (_, []) => some []
      | (_ :: _, ';' :: rest) => parameters? rest
      | _ => none
  | _ => none

def parameter? (text name : String) : Option String := (ofText? text).bind (·.lookup name)

example : parameter? "text/xml; v=1;charset=\"ISO-8859-15\"" "charset" = some "ISO-8859-15" := by
  decide +kernel

end LicenseChooser.Http.MediaType
