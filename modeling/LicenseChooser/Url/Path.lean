import LicenseChooser.Text.Scan
import LicenseChooser.Url.Percent

/-!
Paths as lists of segments, each in its written form. A trailing slash is an empty last segment, so
the path of a lone slash is one empty segment. Dot segments never stay in a path: a single dot names
the place reached and two dots the place above it.
-/

namespace LicenseChooser.Url

open Text

inductive Path where
  /-- The rest of a URL whose scheme is followed by no slash. -/
  | opaqueText (text : String)
  | segments (parts : List String)
  deriving DecidableEq, Repr

def Path.toString : Path → String
  | .opaqueText text => text
  | .segments parts => String.join (parts.map ("/" ++ ·))

/-- What the scheme decides about the rest of a URL. -/
inductive Kind where
  | web
  | file
  | other
  deriving DecidableEq, Repr

/-- Web and file URLs have a fixed syntax, in which a backslash counts as a slash. -/
def Kind.isSpecial : Kind → Bool
  | .other => false
  | _ => true

def Kind.separates (k : Kind) (c : Char) : Bool := c == '/' || (k.isSpecial && c == '\\')

/-- The written form of a dot, which may be encoded. -/
def dots? : List Char → Option Nat
  | [] => some 0
  | '.' :: rest => (dots? rest).map (· + 1)
  | '%' :: '2' :: 'e' :: rest => (dots? rest).map (· + 1)
  | '%' :: '2' :: 'E' :: rest => (dots? rest).map (· + 1)
  | _ => none

/-- A letter and a colon or bar, which name a drive in a file URL. -/
def isDrive : List Char → Bool
  | [letter, mark] => letter.isAlpha && (mark == ':' || mark == '|')
  | _ => false

/-- A segment that is named like a drive, in a URL of any scheme. A backslash ends the name where it
is no slash. -/
def isNamedLikeDrive (segment : List Char) : Bool :=
  isDrive (segment.take 2) && (segment.length == 2 || segment[2]? == some '\\')

/-- The path above. No step goes above a segment that is named like a drive. -/
def shorten (done : List String) : List String :=
  if done.getLast?.any (isNamedLikeDrive ·.toList) then done else done.dropLast

/-- The written form of a segment after `done`. -/
def segmentText (k : Kind) (done : List String) (encoded : List Char) : String :=
  if k == .file && done.isEmpty && isDrive encoded then
    String.ofList (encoded.take 1 ++ [':'])
  else String.ofList encoded

/-- Follows segments from the place that `done` names; `done` holds no dot segments. -/
def follow (k : Kind) (done : List String) : List (List Char) → List String
  | [] => done
  | [last] =>
      match dots? last with
      | some 2 => shorten done ++ [""]
      | some 1 => done ++ [""]
      | _ => done ++ [segmentText k done (percentEncode pathSet last)]
  | segment :: rest =>
      match dots? segment with
      | some 2 => follow k (shorten done) rest
      | some 1 => follow k done rest
      | _ => follow k (done ++ [segmentText k done (percentEncode pathSet segment)]) rest

/-- A file URL's path does not begin with empty segments. -/
def dropLeadingEmpty (k : Kind) (parts : List String) : List String :=
  if k == .file then
    match parts.dropWhile (· == "") with
    | [] => [""]
    | rest => rest
  else parts

/-- The path whose text, after the first slash, is `cs`, from the place that `done` names. -/
def readPath (k : Kind) (done : List String) (cs : List Char) : List String :=
  dropLeadingEmpty k (follow k done (splitWhere k.separates cs))

/-- Removes an empty last segment, unless it is the only one. -/
def popIfEmpty (parts : List String) : List String :=
  if parts.length ≥ 2 ∧ parts.getLast? = some "" then parts.dropLast else parts

/-- The place below the path at which the next segment goes: a lone slash is filled. -/
def openEnd (parts : List String) : List String := if parts = [""] then [] else parts

/-- Appends one segment given as a value. Its characters never end the segment; line breaks and tabs
are left out. Dot segments are skipped, and what only becomes one without its breaks is followed. -/
def appendSegment (k : Kind) (parts : List String) (segment : String) : List String :=
  if segment = "." ∨ segment = ".." then parts
  else
    let kept := segment.toList.filter fun c => c != '\t' && c != '\n' && c != '\r'
    let place := openEnd parts
    if kept = ['.'] then place ++ [""]
    else if kept = ['.', '.'] then shorten place ++ [""]
    else
      let set := if k.isSpecial then specialSegmentSet else segmentSet
      place ++ [segmentText k place (percentEncode set kept)]

end LicenseChooser.Url
