import LicenseChooser.Answers.Basic
import LicenseChooser.Json.Number
import LicenseChooser.Json.Value
import LicenseChooser.License.Summary

/-!
License classes and answers from JSON. A record is an object with at least its fields, or an array of
them in order. The first thing that is wrong in the text decides the error, be it that the text is no
JSON or that a value has the wrong shape.
-/

namespace LicenseChooser.Json

inductive DecodeError where
  | malformed
  | shape (cause : ShapeError)
  deriving DecidableEq, Repr

abbrev Decoder (α : Type) := Value → Except DecodeError α

/-- What a value is; nothing for one that is no JSON. -/
def Value.found? : Value → Option Found
  | .null => some .null
  | .boolean b => some (.boolean b)
  | .number n => n.found?
  | .text s => s.map .text
  | .array _ _ => some .sequence
  | .object _ _ => some .map
  | .broken => none

/-- The error of a value where something else was expected. -/
def unexpected (v : Value) (expected : String) : DecodeError :=
  match v.found? with
  | some found => .shape (.wrongType found expected)
  | none => .malformed

def decodeText : Decoder String
  | .text (some s) => .ok s
  | v => .error (unexpected v "a string")

def decodeList {α : Type} (item : Decoder α) : Decoder (List α)
  | .array items whole => do
      let decoded ← items.mapM item
      if whole then return decoded else throw .malformed
  | v => .error (unexpected v "a sequence")

/-- The fields of a record, each with its decoder. -/
abbrev Fields (α : Type) := List (String × Decoder α)

/-- Reads the members of an object after the fields `seen`. A member that is no field is skipped. -/
def decodeMembers {α : Type} (fields : Fields α) (seen : List (String × α)) :
    List (Option String × Value) → Except DecodeError (List (String × α))
  | [] => .ok seen
  | (none, _) :: _ => .error .malformed
  | (some key, v) :: rest =>
      match fields.lookup key with
      | none => if v.isWhole then decodeMembers fields seen rest else .error .malformed
      | some decoder =>
          if (seen.lookup key).isSome then .error (.shape (.duplicateField key))
          else do
            let a ← decoder v
            decodeMembers fields (seen ++ [(key, a)]) rest

/-- Reads the items of an array as fields in order; `count` are read before. -/
def decodeItems {α : Type} (expected : String) (whole : Bool) (count : Nat) :
    Fields α → List Value → Except DecodeError (List (String × α))
  | [], items => if whole && items.isEmpty then .ok [] else .error .malformed
  | _ :: _, [] =>
      if whole then .error (.shape (.wrongLength count expected)) else .error .malformed
  | (name, decoder) :: fields, v :: rest => do
      let a ← decoder v
      return (name, a) :: (← decodeItems expected whole (count + 1) fields rest)

/-- Reads a record with this name. -/
def decodeRecord {α : Type} (name : String) (fields : Fields α) :
    Decoder (List (String × α))
  | .object members whole => do
      let seen ← decodeMembers fields [] members
      if !whole then throw .malformed
      match fields.find? fun f => (seen.lookup f.1).isNone with
      | some f => throw (.shape (.missingField f.1))
      | none => return seen
  | .array items whole =>
      decodeItems ("struct " ++ name ++ " with " ++ toString fields.length ++ " elements") whole 0
        fields items
  | v => .error (unexpected v ("struct " ++ name))

/-- A field is a text, or a list of records. -/
abbrev Slot (α : Type) := String ⊕ List α

def textField {α : Type} (name : String) : String × Decoder (Slot α) :=
  (name, fun v => (decodeText v).map .inl)

def listField {α : Type} (name : String) (item : Decoder α) : String × Decoder (Slot α) :=
  (name, fun v => (decodeList item v).map .inr)

def textOf {α : Type} (slots : List (String × Slot α)) (name : String) : String :=
  match slots.lookup name with
  | some (.inl s) => s
  | _ => ""

def listOf {α : Type} (slots : List (String × Slot α)) (name : String) : List α :=
  match slots.lookup name with
  | some (.inr l) => l
  | _ => []

def decodeChoice : Decoder Choice := fun v => do
  let slots ← decodeRecord (α := Slot Unit) "LicenseFieldOption"
    [textField "id", textField "label", textField "description"] v
  return ⟨textOf slots "id", textOf slots "label", textOf slots "description"⟩

def decodeQuestion : Decoder Question := fun v => do
  let slots ← decodeRecord "LicenseField"
    [textField "id", textField "label", textField "description",
      listField "options" decodeChoice] v
  return ⟨textOf slots "id", textOf slots "label", textOf slots "description",
    listOf slots "options"⟩

def decodeLicenseClass : Decoder LicenseClass := fun v => do
  let slots ← decodeRecord "LicenseSummary"
    [textField "id", textField "label", listField "fields" decodeQuestion] v
  return ⟨textOf slots "id", textOf slots "label", listOf slots "fields"⟩

/-- The members of an object of strings, in order. -/
def decodePairs : List (Option String × Value) → Except DecodeError (List (String × String))
  | [] => .ok []
  | (none, _) :: _ => .error .malformed
  | (some key, v) :: rest => do
      let value ← decodeText v
      return (key, value) :: (← decodePairs rest)

def decodeAnswers : Decoder Answers
  | .object members whole => do
      let pairs ← decodePairs members
      if whole then return .ofList pairs else throw .malformed
  | v => .error (unexpected v "a map")

/-- Decodes a whole text. -/
def decodeWith {α : Type} (decoder : Decoder α) (s : String) : Except DecodeError α := do
  let reading := read s
  let a ← decoder reading.value
  if reading.ended then return a else throw .malformed

end LicenseChooser.Json

namespace LicenseChooser

def LicenseClass.ofJson (s : String) : Except Json.DecodeError LicenseClass :=
  Json.decodeWith Json.decodeLicenseClass s

def Answers.ofJson (s : String) : Except Json.DecodeError Answers :=
  Json.decodeWith Json.decodeAnswers s

end LicenseChooser
