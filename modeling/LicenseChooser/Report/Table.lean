import LicenseChooser.Text.Scan
import LicenseChooser.Text.Width

/-!
Tables with a border. A column is as wide as its widest line, and every cell of a row is as high as the
highest one.
-/

namespace LicenseChooser.Report

open Text

/-- A cell by its lines. -/
abbrev Cell := List String

def Cell.ofText (s : String) : Cell := (splitWhere (· == '\n') s.toList).map String.ofList

/-- The strokes of a horizontal line. -/
structure Rule where
  left : String
  stroke : String
  crossing : String
  right : String

def topRule : Rule := ⟨"┌", "─", "┬", "┐"⟩

def headRule : Rule := ⟨"╞", "═", "╪", "╡"⟩

def rowRule : Rule := ⟨"├", "╌", "┼", "┤"⟩

def bottomRule : Rule := ⟨"└", "─", "┴", "┘"⟩

/-- A horizontal line over columns of these widths, each with a blank on both sides. -/
def Rule.line (r : Rule) (widths : List Nat) : String :=
  r.left ++ r.crossing.intercalate (widths.map fun w =>
    String.join (List.replicate (w + 2) r.stroke)) ++ r.right

def Cell.width (c : Cell) : Nat := (c.map displayWidth).foldl max 0

/-- The widths of the columns of some rows. -/
def columnWidths (rows : List (List Cell)) : List Nat :=
  rows.foldl (fun widths row =>
    (List.range (max widths.length row.length)).map fun i =>
      max (widths.getD i 0) ((row.getD i []).width)) []

/-- A line of a cell, filled with blanks. -/
def padLine (width : Nat) (line : String) : String :=
  " " ++ line ++ String.ofList (List.replicate (width - displayWidth line) ' ') ++ " "

/-- The lines of a row. -/
def rowLines (widths : List Nat) (row : List Cell) : List String :=
  let height := (row.map List.length).foldl max 0
  (List.range height).map fun i =>
    "│" ++ "┆".intercalate ((widths.zip row).map fun (w, cell) => padLine w (cell.getD i "")) ++ "│"

/-- A table with a head. -/
def table (head : List Cell) (rows : List (List Cell)) : String :=
  let widths := columnWidths (head :: rows)
  let body := ([rowRule.line widths].intercalate (rows.map (rowLines widths)))
  "\n".intercalate ([topRule.line widths] ++ rowLines widths head ++ [headRule.line widths] ++ body ++
    [bottomRule.line widths])

end LicenseChooser.Report
