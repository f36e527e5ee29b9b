import LicenseChooser.Json.Token

/-!
JSON values as far as a text holds them. Reading never fails: a container whose text breaks off
keeps the items before that point and is marked, so that a reader who works through the values in
order meets what is wrong at the place where it is written.
-/

namespace LicenseChooser.Json

inductive Value where
  | null
  | boolean (value : Bool)
  | number (value : Number)
  | text (value : Option String)
  /-- `whole` says that everything up to the end of the container could be read. -/
  | array (items : List Value) (whole : Bool)
  | object (members : List (Option String × Value)) (whole : Bool)
  | broken
  deriving Repr

/-- Whether all of a value could be read. -/
def Value.isWhole : Value → Bool
  | .array _ whole => whole
  | .object _ whole => whole
  | .broken => false
  | _ => true

/-- A container that is open, its items last one first, and for an object the key whose value
comes next. -/
inductive Frame where
  | array (before : List Value)
  | object (before : List (Option String × Value)) (key : Option (Option String))

/-- The value that a frame becomes when it ends. -/
def Frame.close (whole : Bool) : Frame → Value
  | .array before => .array before.reverse whole
  | .object before none => .object before.reverse whole
  | .object before (some key) => .object ((key, .broken) :: before).reverse whole

/-- Adds a value to the innermost container. -/
def Frame.add (v : Value) : Frame → Frame
  | .array before => .array (v :: before)
  | .object before key => .object ((key.getD none, v) :: before) none

/-- What has been read: the open containers, innermost first, or the complete value. -/
structure Progress where
  opened : List Frame
  result : Option Value
  /-- Whether the text was JSON up to this point. -/
  whole : Bool

def Progress.start : Progress := ⟨[], none, true⟩

def Progress.add (p : Progress) (v : Value) : Progress :=
  match p.opened with
  | f :: outer => { p with opened := f.add v :: outer }
  | [] => { p with result := some v }

/-- Ends the innermost container. -/
def Progress.close (p : Progress) : Progress :=
  match p.opened with
  | f :: outer => Progress.add { p with opened := outer } (f.close true)
  | [] => p

def Progress.step (p : Progress) : Token → Progress
  | .null => p.add .null
  | .boolean b => p.add (.boolean b)
  | .number n => p.add (.number n)
  | .text s => p.add (.text s)
  | .key name =>
      match p.opened with
      | .object before _ :: outer => { p with opened := .object before (some name) :: outer }
      | _ => p
  | .openArray => { p with opened := .array [] :: p.opened }
  | .openObject => { p with opened := .object [] none :: p.opened }
  | .closeArray | .closeObject => p.close
  | .broken => { p with whole := false }

/-- Ends the containers still open, none of which is whole. -/
def abandon (v : Option Value) : List Frame → Value
  | [] => v.getD .broken
  | f :: outer =>
      abandon (some ((match v with | some inner => f.add inner | none => f).close false)) outer

/-- The value of a text, and whether nothing but blanks follows it. -/
structure Reading where
  value : Value
  ended : Bool

def read (s : String) : Reading :=
  let p := (tokens s).foldl Progress.step .start
  match p.opened, p.result with
  | [], some v => ⟨v, p.whole⟩
  | opened, _ => ⟨abandon none opened, false⟩

end LicenseChooser.Json
