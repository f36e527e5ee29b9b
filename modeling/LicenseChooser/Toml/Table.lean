import LicenseChooser.Toml.Value

/-!
Tables while they are read. How a table came about decides what may still be added to it: a header
opens a table once, a table that a longer header implied may still be opened, and only tables made
by dotted keys take further dotted keys.
-/

namespace LicenseChooser.Toml

/-- What made a table. -/
inductive Origin where
  | header (span : Span)
  | implied
  | dotted
  deriving DecidableEq, Repr

/-- What stands under a key. -/
inductive Node where
  | value (value : Value)
  | table (origin : Origin) (members : List (Key × Node))
  /-- The elements of an array of tables, each with its header. -/
  | elements (tables : List (Span × List (Key × Node)))

abbrev Members := List (Key × Node)

/-- What stands under a name. -/
def Members.node? (name : String) (m : Members) : Option Node :=
  (m.find? fun p => p.1.name == name).map (·.2)

/-- Replaces what stands under a name. -/
def Members.replace (name : String) (node : Node) (m : Members) : Members :=
  m.map fun p => if p.1.name = name then (p.1, node) else p

/-- Whether dotted keys made the table that is reached. -/
abbrev Reached := Bool

/-- Changes the table that a path leads to from a table that `before` leads to. Missing tables are
made; a path through an array of tables goes to its last element. A dotted key does not enter a
table opened by a header. -/
def Members.changeAt (dotted : Bool) (change : Reached → Members → Except Cause Members)
    (before : List String) : List Key → Reached → Members → Except Cause Members
  | [], reached, m => change reached m
  | key :: path, _, m =>
      let here := before ++ [key.name]
      match node? key.name m with
      | none =>
          (changeAt dotted change here path dotted []).map fun n =>
            m ++ [(key, .table (if dotted then .dotted else .implied) n)]
      | some (.value v) => .error (.noTable here v.kind)
      | some (.table (.header span) n) =>
          if dotted then .error (.duplicateKey key.name none)
          else (changeAt dotted change here path false n).map fun n =>
            replace key.name (.table (.header span) n) m
      | some (.table origin n) =>
          (changeAt dotted change here path (origin == .dotted) n).map fun n =>
            replace key.name (.table origin n) m
      | some (.elements tables) =>
          match tables.getLast? with
          | none => .ok m
          | some (span, last) =>
              (changeAt dotted change here path false last).map fun n =>
                replace key.name (.elements (tables.dropLast ++ [(span, n)])) m

/-- Adds a value under a key of which all parts but the last name tables. `table` is the path of the
table that the key is written in, where an error names it. -/
def Members.addAt (table : Option (List String)) (path : List Key) (value : Value) (m : Members) :
    Except Cause Members :=
  match path.getLast? with
  | none => .ok m
  | some key =>
      let outer := path.dropLast
      changeAt true
        (fun reached n =>
          if reached == outer.isEmpty then .error (.duplicateKey key.name none)
          else if (node? key.name n).isSome then .error (.duplicateKey key.name table)
          else .ok (n ++ [(key, .value value)]))
        [] outer false m

/-- Opens a table by its header. One that was only implied moves behind its neighbours. -/
def Members.openTable (outer : List String) (span : Span) (key : Key) (m : Members) :
    Except Cause Members :=
  match node? key.name m with
  | none => .ok (m ++ [(key, .table (.header span) [])])
  | some (.table .implied n) =>
      .ok (m.filter (·.1.name != key.name) ++ [(key, .table (.header span) n)])
  | some _ => .error (.duplicateKey key.written (some outer))

/-- Opens a new element of an array of tables. -/
def Members.openElement (outer : List String) (span : Span) (key : Key) (m : Members) :
    Except Cause Members :=
  match node? key.name m with
  | none => .ok (m ++ [(key, .elements [(span, [])])])
  | some (.elements tables) => .ok (replace key.name (.elements (tables ++ [(span, [])])) m)
  | some _ => .error (.duplicateKey key.written (some outer))

/-- Follows a header from the root. -/
def Members.openAt (element : Bool) (span : Span) (path : List Key) (m : Members) :
    Except Cause Members :=
  match path.getLast? with
  | none => .ok m
  | some key =>
      let outer := path.dropLast.map (·.name)
      changeAt false
        (fun _ n => if element then openElement outer span key n else openTable outer span key n)
        [] path.dropLast false m

/-- The later of two places. -/
def later? (a b : Option Nat) : Option Nat :=
  match a, b with
  | some m, some n => some (min m n)
  | some m, none => some m
  | none, n => n

mutual

/-- Where the last value ends that the header of a table is followed by. -/
def Node.end? : Node → Option Nat
  | .value v => v.span?.map (·.stop)
  | .table .dotted members => Node.membersEnd? members
  | .table _ _ | .elements _ => none

def Node.membersEnd? : List (Key × Node) → Option Nat
  | [] => none
  | (_, node) :: rest => later? node.end? (Node.membersEnd? rest)

end

/-- The stretch of a table: from its header to the last value of its own. -/
def tableSpan (header : Span) (members : Members) : Span :=
  ⟨header.start, (Node.membersEnd? members).getD header.stop⟩

/-- The stretch of an array of tables. -/
def elementsSpan (spans : List Span) : Span :=
  ⟨(spans.head?.map (·.start)).getD 0, (spans.getLast?.map (·.stop)).getD 0⟩

mutual

def Node.toValue : Node → Value
  | .value v => v
  | .table (.header span) members =>
      .table (Node.membersToValues members) (some (tableSpan span members))
  | .table _ members => .table (Node.membersToValues members) none
  | .elements tables =>
      .array (Node.tablesToValues tables) (elementsSpan (tables.map fun t => tableSpan t.1 t.2))

def Node.membersToValues : List (Key × Node) → List (Key × Value)
  | [] => []
  | (key, node) :: rest => (key, node.toValue) :: Node.membersToValues rest

def Node.tablesToValues : List (Span × List (Key × Node)) → List Value
  | [] => []
  | (span, first) :: rest =>
      .table (Node.membersToValues first) (some (tableSpan span first)) :: Node.tablesToValues rest

end

end LicenseChooser.Toml
