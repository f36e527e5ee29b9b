import LicenseChooser.Toml.Scalar

/-!
The tokens of a TOML document. Blanks, comments, line breaks and the signs between keys and values are
checked and leave no token; where the text stops being TOML the tokens end with `broken`.
-/

namespace LicenseChooser.Toml

open Text

inductive Token where
  /-- One part of a key. -/
  | key (key : Key)
  /-- A header, with its brackets; `element` says that they are double. -/
  | header (element : Bool) (span : Span)
  | scalar (value : Scalar) (span : Span)
  | openArray
  | closeArray (span : Span)
  | openTable
  | closeTable (span : Span)
  /-- The end of a line that gave a value to a key. -/
  | endLine
  | broken (fault : Fault)
  deriving Repr

inductive Container where
  | array
  | table
  deriving DecidableEq, Repr

/-- A container that is still open, and what was left at its beginning. -/
structure Opened where
  container : Container
  start : Nat
  deriving DecidableEq, Repr

/-- What may come next. A header is known by what was left at its beginning. With `first` the
container just opened may also close; after a comma an array may close as well. -/
inductive Place where
  | line
  | headerKey (element : Bool) (start : Nat)
  | afterHeaderKey (element : Bool) (start : Nat)
  | afterHeader (element : Bool) (span : Span)
  | firstKey
  | key
  | afterKey
  | value
  | firstItem
  | after
  deriving DecidableEq, Repr

/-- What one step of reading gives: tokens, the containers then open, the next place, and the rest
of the text. -/
structure Step where
  tokens : List Token
  opened : List Opened
  place : Place
  rest : List Char

/-- A step, or the tokens with which a text ends that is no TOML. -/
abbrev Stepping := Except (List Token) Step

def stop {α : Type} (f : Fault) : Except (List Token) α := .error [.broken f]

/-- The most containers that may be open, and the most parts that a key may have. -/
def maxDepth : Nat := 79

def skipBlanks (cs : List Char) : List Char := cs.dropWhile isBlank

/-- Blanks, comments and line breaks skipped. A comment has to end with its line. -/
def skipLines (cs : List Char) : Except Fault (List Char) :=
  match cs with
  | [] => .ok []
  | '\n' :: rest => skipLines rest
  | '\r' :: '\n' :: rest => skipLines rest
  | '\r' :: rest => .error (.bare rest)
  | '#' :: rest =>
      match _h : rest.dropWhile isAllowed with
      | [] => .error (.bare [])
      | '\n' :: after => skipLines after
      | '\r' :: '\n' :: after => skipLines after
      | _ :: after => .error (.bare after)
  | c :: rest => if isBlank c then skipLines rest else .ok (c :: rest)
  termination_by cs.length
  decreasing_by
    · simp
    · simp only [List.length_cons]
      omega
    · have h := length_dropWhile_le isAllowed rest
      rw [_h] at h
      simp only [List.length_cons] at h ⊢
      omega
    · have h := length_dropWhile_le isAllowed rest
      rw [_h] at h
      simp only [List.length_cons] at h ⊢
      omega
    · simp

/-- What follows the end of a line, before which a comment may stand. -/
def endLine (cs : List Char) : Except Fault (List Char) :=
  let rest := match skipBlanks cs with
    | '#' :: comment => comment.dropWhile isAllowed
    | others => others
  if rest.isEmpty then .ok []
  else
    match lineBreak? rest with
    | some next => .ok next
    | none => .error (((Fault.bare rest).expecting "newline").expecting "`#`")

/-- A part of a key. -/
def keyPart (cs : List Char) : Reading String :=
  match cs with
  | '"' :: rest => (basicText rest).map fun (name, after) => (String.ofList name, after)
  | '\'' :: rest => (literalText rest).map fun (name, after) => (String.ofList name, after)
  | _ =>
      let name := cs.takeWhile isBareKeyChar
      if name.isEmpty then .error (.bare cs)
      else .ok (String.ofList name, cs.dropWhile isBareKeyChar)

/-- Whether a part of a key begins after blanks. -/
def beginsKey (cs : List Char) : Bool :=
  match skipBlanks cs with
  | [] => false
  | c :: _ => c == '"' || c == '\'' || isBareKeyChar c

def keyStep (next : Place) (opened : List Opened) (cs : List Char) : Stepping :=
  let text := skipBlanks cs
  match keyPart text with
  | .ok (name, rest) =>
      .ok ⟨[.key ⟨name, ⟨text.length, rest.length⟩⟩], opened, next, skipBlanks rest⟩
  | .error f => stop (f.inside "key")

def arrayFault (left : Nat) : Fault := ⟨left, some "array", ["`]`"], none⟩

def tableFault (left : Nat) : Fault := ⟨left, some "inline table", ["`\x7d`"], none⟩

/-- After a value that began where `start` was left. An item of an array that is not followed as it
should be is no item. -/
def afterValue (token : Token) (start : Nat) (opened : List Opened) (rest : List Char) : Stepping :=
  match opened with
  | ⟨.array, _⟩ :: _ =>
      match skipLines rest with
      | .ok next => .ok ⟨[token], opened, .after, next⟩
      | .error _ => stop (arrayFault start)
  | ⟨.table, _⟩ :: _ => .ok ⟨[token], opened, .after, skipBlanks rest⟩
  | [] => .ok ⟨[token], [], .after, rest⟩

/-- A value begins. -/
def valueStep (opened : List Opened) (cs : List Char) : Stepping :=
  let tooDeep := maxDepth ≤ opened.length
  match cs with
  | '[' :: rest =>
      if tooDeep then stop (.caused cs .tooDeep)
      else .ok ⟨[.openArray], ⟨.array, cs.length⟩ :: opened, .firstItem, rest⟩
  | '\x7b' :: rest =>
      if tooDeep then stop (.caused cs .tooDeep)
      else .ok ⟨[.openTable], ⟨.table, cs.length⟩ :: opened, .firstKey, rest⟩
  | _ =>
      match scalar cs with
      | .ok (value, rest) =>
          afterValue (.scalar value ⟨cs.length, rest.length⟩) cs.length opened rest
      | .error f => stop f

/-- The innermost container closes before `rest`. -/
def closeStep (opened : List Opened) (rest : List Char) : Stepping :=
  match opened with
  | [] => stop (.bare rest)
  | o :: outer =>
      let span : Span := ⟨o.start, rest.length⟩
      let token := match o.container with
        | .array => .closeArray span
        | .table => .closeTable span
      afterValue token o.start outer rest

/-- An inline table ends here; its members are judged even if it is not closed. -/
def tableEnd (opened : List Opened) (cs : List Char) : Stepping :=
  match opened, cs with
  | _, '\x7d' :: rest => closeStep opened rest
  | [], _ => stop (tableFault cs.length)
  | o :: _, _ => .error [.closeTable ⟨o.start, cs.length⟩, .broken (tableFault cs.length)]

def headerLabel : String := "table header"

/-- A line of the document. -/
def lineStep (cs : List Char) : Stepping :=
  match skipBlanks cs with
  | [] => .ok ⟨[], [], .line, []⟩
  | '#' :: rest =>
      match rest.dropWhile isAllowed with
      | [] => .ok ⟨[], [], .line, []⟩
      | '\n' :: next => .ok ⟨[], [], .line, next⟩
      | '\r' :: '\n' :: next => .ok ⟨[], [], .line, next⟩
      | others => stop (.bare others)
  | '\n' :: rest => .ok ⟨[], [], .line, rest⟩
  | '\r' :: '\n' :: rest => .ok ⟨[], [], .line, rest⟩
  | '\r' :: rest => stop (.bare ('\r' :: rest))
  | '[' :: '[' :: rest => .ok ⟨[], [], .headerKey true (rest.length + 2), rest⟩
  | ['['] => stop (.labelled ['['] headerLabel [])
  | '[' :: rest => .ok ⟨[], [], .headerKey false (rest.length + 1), rest⟩
  | text => keyStep .afterKey [] text

/-- After a part of the key in a header. -/
def headerStep (element : Bool) (start : Nat) (cs : List Char) : Stepping :=
  let fault (close : String) : Fault := .labelled cs headerLabel ["`.`", close]
  match element, cs with
  | true, ']' :: ']' :: rest => .ok ⟨[], [], .afterHeader true ⟨start, rest.length⟩, rest⟩
  | false, ']' :: rest => .ok ⟨[], [], .afterHeader false ⟨start, rest.length⟩, rest⟩
  | _, '.' :: rest =>
      if beginsKey rest then .ok ⟨[], [], .headerKey element start, rest⟩
      else stop (fault (if element then "`]]`" else "`]`"))
  | true, _ => stop (fault "`]]`")
  | false, _ => stop (fault "`]`")

/-- After a part of a key that a value is to follow. -/
def assignStep (opened : List Opened) (cs : List Char) : Stepping :=
  let fault := ((Fault.bare cs).expecting "`.`").expecting "`=`"
  match cs with
  | '=' :: rest => .ok ⟨[], opened, .value, rest⟩
  | '.' :: rest => if beginsKey rest then .ok ⟨[], opened, .key, rest⟩ else stop fault
  | _ => stop fault

/-- After a value, before which all that leaves no token is already skipped inside containers. -/
def nextStep (opened : List Opened) (cs : List Char) : Stepping :=
  match opened, cs with
  | [], _ =>
      match endLine cs with
      | .ok rest => .ok ⟨[.endLine], [], .line, rest⟩
      | .error f => stop f
  | ⟨.array, _⟩ :: _, ',' :: rest => .ok ⟨[], opened, .firstItem, rest⟩
  | ⟨.array, _⟩ :: _, ']' :: rest => closeStep opened rest
  | ⟨.array, _⟩ :: _, _ => stop (arrayFault cs.length)
  | ⟨.table, _⟩ :: _, ',' :: rest =>
      if beginsKey rest then .ok ⟨[], opened, .key, rest⟩ else tableEnd opened cs
  | ⟨.table, _⟩ :: _, _ => tableEnd opened cs

/-- An item of an array begins, or the array ends. -/
def itemStep (opened : List Opened) (cs : List Char) : Stepping :=
  match skipLines cs with
  | .error f => stop f
  | .ok (']' :: rest) => closeStep opened rest
  | .ok text => if beginsValue text then valueStep opened text else stop (arrayFault text.length)

def step (opened : List Opened) (place : Place) (cs : List Char) : Stepping :=
  match place with
  | .line => lineStep cs
  | .headerKey element start => keyStep (.afterHeaderKey element start) opened cs
  | .afterHeaderKey element start => headerStep element start cs
  | .afterHeader element span =>
      match endLine cs with
      | .ok rest => .ok ⟨[.header element span], [], .line, rest⟩
      | .error f => stop (f.inside headerLabel)
  | .firstKey =>
      if beginsKey cs then keyStep .afterKey opened cs else tableEnd opened (skipBlanks cs)
  | .key => keyStep .afterKey opened cs
  | .afterKey => assignStep opened cs
  | .value => valueStep opened (skipBlanks cs)
  | .firstItem => itemStep opened cs
  | .after => nextStep opened cs

/-- The tokens of the rest of a text. A step that leaves nothing less to read is the last one. -/
def scan (opened : List Opened) (place : Place) (cs : List Char) : List Token :=
  match step opened place cs with
  | .error tokens => tokens
  | .ok s =>
      if s.rest.length < cs.length then s.tokens ++ scan s.opened s.place s.rest else s.tokens
  termination_by cs.length

/-- The tokens of a document. A byte order mark before it is skipped. -/
def tokens (s : String) : List Token :=
  match s.toList with
  | '\uFEFF' :: rest => scan [] .line rest
  | cs => scan [] .line cs

end LicenseChooser.Toml
