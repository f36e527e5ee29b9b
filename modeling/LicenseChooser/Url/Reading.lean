import LicenseChooser.Url.Basic

/-!
Reading URLs, absolute or relative to another one. Blanks around a URL and line breaks and tabs in
it do not count.
-/

namespace LicenseChooser.Url

open Text

/-- The text that counts. -/
def clean (cs : List Char) : List Char :=
  let outer (c : Char) : Bool := c.toNat ≤ 0x20
  let inner (c : Char) : Bool := c == '\t' || c == '\n' || c == '\r'
  ((cs.dropWhile outer).reverse.dropWhile outer).reverse.filter (!inner ·)

/-- The scheme before the first colon, in lower case, and what follows the colon. -/
def splitScheme? (cs : List Char) : Option (List Char × List Char) :=
  match cutWhere (· == ':') cs with
  | (scheme, some rest) =>
      if scheme.head?.any (·.isAlpha) ∧
          scheme.all (fun c => c.isAlphanum || c == '+' || c == '-' || c == '.') then
        some (scheme.map (·.toLower), rest)
      else none
  | (_, none) => none

/-- A text before its query and fragment, and these two. -/
structure Parts where
  main : List Char
  query : Option (List Char)
  fragment : Option (List Char)

def splitParts (cs : List Char) : Parts :=
  let (before, fragment) := cutWhere (· == '#') cs
  let (main, query) := cutWhere (· == '?') before
  ⟨main, query, fragment⟩

/-- The written form of a query. -/
def queryText (k : Kind) (cs : List Char) : String :=
  String.ofList (percentEncode (if k.isSpecial then specialQuerySet else querySet) cs)

def fragmentText (cs : List Char) : String := String.ofList (percentEncode fragmentSet cs)

/-- Adds query and fragment to what stands before them. -/
def finish (scheme : String) (authority : Option Authority) (path : Path) (p : Parts) : Url where
  scheme
  authority
  path
  query := p.query.map (queryText (kindOf scheme))
  fragment := p.fragment.map fragmentText

/-- What the userinfo says: the written forms of user and password. A password that is empty is
none. -/
def readUserinfo (cs : List Char) : String × Option String :=
  let written (part : List Char) : String := String.ofList (percentEncode userinfoSet part)
  match cutWhere (· == ':') cs with
  | (user, some (c :: rest)) => (written user, some (written (c :: rest)))
  | (user, _) => (written user, none)

/-- Splits at the first colon outside brackets. -/
def splitPort (bracketed : Bool) : List Char → List Char × Option (List Char)
  | [] => ([], none)
  | c :: rest =>
      if c = ':' ∧ !bracketed then ([], some rest)
      else
        let (host, port) := splitPort (if c = '[' then true else if c = ']' then false else bracketed) rest
        (c :: host, port)

/-- A port that is not the one the scheme implies. No digits stand for that one. -/
def readPort (scheme : String) (digits : List Char) : Except Error (Option Nat) :=
  match numeralValue? 10 digits with
  | none => .error .invalidPort
  | some n =>
      if n ≥ 0x10000 then .error .invalidPort
      else if digits.isEmpty ∨ defaultPort? scheme = some n then .ok none
      else .ok (some n)

/-- The host of a URL of this scheme, which may be empty in the schemes without fixed syntax. -/
def readHost (scheme : String) (hasPort : Bool) (cs : List Char) : Except Error (Option Host) :=
  if cs.isEmpty then
    if (kindOf scheme).isSpecial ∨ hasPort then .error .emptyHost else .ok none
  else if (kindOf scheme).isSpecial then (Host.parse cs).map some
  else (Host.parseOpaque cs).map some

/-- Whether `c` ends the authority. -/
def endsAuthority (k : Kind) (c : Char) : Bool := k.separates c || c == '?' || c == '#'

/-- Splits at the last `@`. -/
def splitUserinfo (cs : List Char) : Option (List Char × List Char) :=
  match cs.reverse.dropWhile (· != '@') with
  | _ :: before => some (before.reverse, (cs.reverse.takeWhile (· != '@')).reverse)
  | [] => none

/-- The URL whose authority begins with `cs`. -/
def readAuthority (scheme : String) (cs : List Char) : Except Error Url := do
  let k := kindOf scheme
  let text := cs.takeWhile (!endsAuthority k ·)
  let after := cs.dropWhile (!endsAuthority k ·)
  let (userinfo, hostport) := (splitUserinfo text).getD ([], text)
  if text = ['@'] ∧ !after.isEmpty then throw .emptyHost
  let (user, password) := readUserinfo userinfo
  let (hostText, portPart) := splitPort false hostport
  let portText := portPart.map fun p => p.takeWhile (· != '\\')
  let beyond := (portPart.map fun p => p.dropWhile (· != '\\')).getD []
  let host ← readHost scheme portPart.isSome hostText
  let port ← match portText with
    | some digits => readPort scheme digits
    | none => pure none
  if host.isNone ∧ (user ≠ "" ∨ password.isSome) then throw .emptyHost
  let parts := splitParts (beyond ++ after)
  let segments := match parts.main with
    | [] => if k.isSpecial then [""] else []
    | c :: rest => readPath k [] (if k.separates c then rest else c :: rest)
  return finish scheme (some ⟨user, password, host, port⟩) (.segments segments) parts

/-- Drops one slash. -/
def dropSlash : List Char → List Char
  | [] => []
  | c :: rest => if Kind.file.separates c then rest else c :: rest

/-- A file URL whose path is written as `cs`. A drive in the first place leaves it without a host. -/
def readFilePath (host : Option Host) (cs : List Char) : Url :=
  let parts := splitParts cs
  let reached := follow .file [] (splitWhere Kind.file.separates parts.main)
  let host := if reached.head?.any (isDrive ·.toList) then none else host
  finish "file" (some ⟨"", none, host, none⟩) (.segments (dropLeadingEmpty .file reached)) parts

/-- A file URL, after its scheme. Where two slashes name no host, the next one stands for an empty
first segment, so that no drive is in the first place. -/
def readFile (cs : List Char) : Except Error Url := do
  match cs with
  | a :: b :: rest =>
      if Kind.file.separates a ∧ Kind.file.separates b then
        let text := rest.takeWhile (!endsAuthority .file ·)
        let after := rest.dropWhile (!endsAuthority .file ·)
        if isDrive text then return readFilePath none rest
        else if text.isEmpty then return readFilePath none after
        else
          let host ← Host.parse text
          if host = .name "localhost" then return readFilePath none after
          else return readFilePath (some host) (dropSlash after)
      else return readFilePath none (dropSlash cs)
  | _ => return readFilePath none (dropSlash cs)

/-- What follows a scheme whose URLs have no fixed syntax. -/
def readOther (scheme : String) (cs : List Char) : Except Error Url :=
  match cs with
  | '/' :: '/' :: rest => readAuthority scheme rest
  | '/' :: rest =>
      let parts := splitParts rest
      .ok (finish scheme none (.segments (readPath .other [] parts.main)) parts)
  | _ =>
      let parts := splitParts cs
      .ok (finish scheme none (.opaqueText (String.ofList (percentEncode controlSet parts.main))) parts)

/-- A URL after its scheme. -/
def readAfterScheme (scheme : String) (cs : List Char) : Except Error Url :=
  match kindOf scheme with
  | .file => readFile cs
  | .web => readAuthority scheme (cs.dropWhile Kind.web.separates)
  | .other => readOther scheme cs

/-- Reads an absolute URL. -/
def parse (s : String) : Except Error Url :=
  let cs := clean s.toList
  match splitScheme? cs with
  | some (scheme, rest) => readAfterScheme (String.ofList scheme) rest
  | none => .error .relativeWithoutBase

/-- The segments of a path without the last one. -/
def Path.parent (p : Path) : List String :=
  match p with
  | .segments parts => parts.dropLast
  | .opaqueText _ => []

/-- Reads a reference without scheme relative to a web URL. -/
def readRelative (base : Url) (cs : List Char) : Except Error Url :=
  let parts := splitParts cs
  let k := base.kind
  match parts.main with
  | [] =>
      match parts.query with
      | some _ => .ok (finish base.scheme base.authority base.path parts)
      | none => .ok { base with fragment := parts.fragment.map fragmentText }
  | a :: rest =>
      if k.separates a then
        match rest with
        | b :: more =>
            if k.separates b then
              let bare := cs.dropWhile k.separates
              readAuthority base.scheme (if a = '/' ∧ b = '/' then cs.drop 2 else bare)
            else .ok (finish base.scheme base.authority (.segments (readPath k [] (b :: more))) parts)
        | [] => .ok (finish base.scheme base.authority (.segments (readPath k [] [])) parts)
      else
        .ok (finish base.scheme base.authority
          (.segments (readPath k base.path.parent parts.main)) parts)

/-- Reads a reference in a document at the web URL `base`. -/
def join (base : Url) (s : String) : Except Error Url :=
  let cs := clean s.toList
  match splitScheme? cs with
  | none => readRelative base cs
  | some (scheme, rest) =>
      let slashes := (rest.takeWhile base.kind.separates).length
      if String.ofList scheme = base.scheme ∧ slashes < 2 then readRelative base rest
      else readAfterScheme (String.ofList scheme) rest

end LicenseChooser.Url
