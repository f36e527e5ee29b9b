import LicenseChooser.Toml.Table
import LicenseChooser.Toml.Token

/-!
TOML documents. Tokens are put together with a stack of the arrays and inline tables still open,
each with the key that waits for it. A line counts when it has ended, and an inline table when its
last member is read.
-/

namespace LicenseChooser.Toml

/-- An open container, with the key under which it will stand, the last part first. -/
inductive Frame where
  | array (path : List Key) (before : List Value)
  | table (path : List Key) (before : List (List Key × Value))

/-- What has been read: the document so far, the path of the last header, the parts of the key being
read, last one first, the open containers, innermost first, and the value that waits for the end of
its line. -/
structure Progress where
  root : Members
  current : List Key
  path : List Key
  opened : List Frame
  waiting : Option Value

namespace Progress

def start : Progress := ⟨[], [], [], [], none⟩

/-- Puts a value where it belongs. -/
def put (p : Progress) (v : Value) : Progress :=
  match p.opened with
  | .array path before :: outer => { p with opened := .array path (v :: before) :: outer }
  | .table path before :: outer =>
      { p with path := [], opened := .table path ((p.path.reverse, v) :: before) :: outer }
  | [] => { p with waiting := some v }

/-- Adds one part to the key being read. -/
def extend (p : Progress) (key : Key) : Except Fault Progress :=
  if p.path.length < maxDepth then .ok { p with path := key :: p.path }
  else
    let start := ((p.path.getLast?.map (·.span)).getD key.span).start
    .error ⟨start, none, [], some .tooDeep⟩

/-- Gives the waiting value to its key. -/
def endLine (p : Progress) : Except Fault Progress :=
  match p.waiting with
  | none => .ok p
  | some v =>
      let path := p.path.reverse
      let start := ((path.head?.map (·.span.start)).getD 0)
      let changed := Members.changeAt false
        (fun _ m => Members.addAt (some (p.current.map (·.name))) path v m) [] p.current false p.root
      match changed with
      | .ok root => .ok { p with root, path := [], waiting := none }
      | .error cause => .error ⟨start, none, [], some cause⟩

def openHeader (p : Progress) (element : Bool) (span : Span) : Except Fault Progress :=
  let path := p.path.reverse
  match Members.openAt element span path p.root with
  | .ok root => .ok { p with root, current := path, path := [] }
  | .error cause => .error ⟨span.start, some headerLabel, [], some cause⟩

/-- The members of an inline table. -/
def inlineMembers (pairs : List (List Key × Value)) : Except Cause Members :=
  pairs.foldlM (fun m p => Members.addAt none p.1 p.2 m) []

/-- Closes the innermost container. -/
def close (p : Progress) (span : Span) : Except Fault Progress :=
  match p.opened with
  | [] => .ok p
  | .array path before :: outer =>
      .ok (put { p with path, opened := outer } (.array before.reverse span))
  | .table path before :: outer =>
      match inlineMembers before.reverse with
      | .ok members =>
          .ok (put { p with path, opened := outer } (.table (Node.membersToValues members) (some span)))
      | .error cause => .error ⟨span.start - 1, none, [], some cause⟩

def step (p : Progress) : Token → Except Fault Progress
  | .key key => p.extend key
  | .header element span => p.openHeader element span
  | .scalar value span => .ok (p.put (.scalar value span))
  | .openArray => .ok { p with path := [], opened := .array p.path [] :: p.opened }
  | .openTable => .ok { p with path := [], opened := .table p.path [] :: p.opened }
  | .closeArray span | .closeTable span => p.close span
  | .endLine => p.endLine
  | .broken fault => .error fault

end Progress

/-- The members of a document. -/
def read (s : String) : Except Fault (List (Key × Value)) :=
  ((tokens s).foldlM Progress.step .start).map fun p => Node.membersToValues p.root

end LicenseChooser.Toml
