import LicenseChooser.Files.Lookup
import LicenseChooser.Text.Scan

/-!
A tree of files, given by its entries. A directory is there when it is an entry or holds one.
-/

namespace LicenseChooser

open Text

inductive Entry where
  | file (content : List UInt8)
  | directory
  deriving DecidableEq, Repr

/-- Entries by the names that lead to them from the root. -/
abbrev FileTree := List (List String × Entry)

namespace FileTree

/-- The names of a path; empty names stand between slashes that follow each other. -/
def names (path : String) : List String :=
  (splitWhere (· == '/') path.toList).map String.ofList

/-- What stands at a place. -/
def at? (t : FileTree) (place : List String) : Option Entry :=
  match t.lookup place with
  | some e => some e
  | none => if t.any fun e => place.isPrefixOf e.1 then some .directory else none

/-- The longest name, in bytes. -/
def maxName : Nat := 255

/-- The longest path, in bytes. -/
def maxPath : Nat := 4095

/-- Follows names from a place. Each must stand in a directory, also those that lead nowhere else. -/
def follow (t : FileTree) (place : List String) : List String → Lookup
  | [] =>
      match t.at? place with
      | some (.file content) => .file content
      | some .directory => .directory
      | none => .failed .missing
  | name :: rest =>
      match t.at? place with
      | none => .failed .missing
      | some (.file _) => .failed .notDirectory
      | some .directory =>
          if name = "" ∨ name = "." then follow t place rest
          else if name = ".." then follow t place.dropLast rest
          else if maxName < name.utf8ByteSize then .failed .nameTooLong
          else follow t (place ++ [name]) rest

/-- What paths lead to; those that do not begin at the root begin at `start`. -/
def files (t : FileTree) (start : List String) : Files := fun path =>
  if path = "" then .failed .missing
  else if path.contains '\x00' then .failed .nulInName
  else if maxPath < path.utf8ByteSize then .failed .nameTooLong
  else if path.startsWith "/" then t.follow [] (names path)
  else t.follow start (names path)

end FileTree

end LicenseChooser
