import LicenseChooser.CommandLine.Invocation
import LicenseChooser.License.Summary
import LicenseChooser.Report.Style
import LicenseChooser.Report.Table

/-!
Reports for people: lists, summaries and tables of questions. All of them end with a line break.
-/

namespace LicenseChooser.Report

open CommandLine

/-- A number filled up with blanks on the left. -/
def padNumber (width n : Nat) : String :=
  let digits := toString n
  String.ofList (List.replicate (width - digits.length) ' ') ++ digits

/-- A text filled up with blanks on the right, counted in characters. -/
def padText (width : Nat) (s : String) : String :=
  s ++ String.ofList (List.replicate (width - s.length) ' ')

/-- One identifier on each line. -/
def idLines (ids : List String) : String := String.join (ids.map (· ++ "\n"))

/-- The listed identifiers, under a heading unless it is to be quiet. -/
def listing (colors quiet : Bool) (locale : String) (ids : List String) : String :=
  let heading :=
    "\n " ++ Style.bold.apply colors (toString ids.length) ++
      " license classes offered for locale " ++ (Style.colored .cyan).apply colors locale ++ "\n\n"
  (if quiet then "" else heading) ++ idLines ids

/-- The answers that a question allows, one on each line. -/
def choiceLines (q : Question) : String :=
  "\n".intercalate (q.choices.map fun c => c.id ++ " = " ++ c.label)

def questionTable (questions : List Question) : String :=
  table [["Field"], ["Question"], ["Answers"]]
    (questions.map fun q => [Cell.ofText q.id, Cell.ofText q.label, Cell.ofText (choiceLines q)])

def license (colors : Bool) (l : LicenseClass) : String :=
  let heading :=
    " " ++ (Style.colored .cyan).apply colors "■" ++ " " ++ Style.bold.apply colors l.label ++
      " (" ++ l.id ++ ")\n\n"
  heading ++
    if l.questions.isEmpty then
      "   " ++ Style.dimmed.apply colors "No questions; the license is issued as is." ++ "\n\n"
    else questionTable l.questions ++ "\n\n"

/-- How many questions all classes have together. -/
def questionCount (c : Catalog) : Nat := c.licenses.foldl (fun n l => n + l.questions.length) 0

/-- The columns between the borders of the summary. -/
def summaryWidth : Nat := 48

def summaryRow (content : String) : String := " │  " ++ content ++ " │\n"

def summaryBorder (left right : String) : String :=
  " " ++ left ++ String.join (List.replicate (summaryWidth + 4) "─") ++ right ++ "\n"

def summary (colors : Bool) (c : Catalog) : String :=
  let tick := (Style.colored .green).apply colors "✓"
  let cross := (Style.colored .red).apply colors "✗"
  summaryBorder "┌" "┐" ++
    summaryRow (Style.bold.applyPadded colors summaryWidth "SUMMARY") ++
    summaryRow (padText summaryWidth
      (tick ++ "  License classes : " ++ padNumber 4 c.licenses.length)) ++
    summaryRow (padText summaryWidth ("   Questions       : " ++ padNumber 4 (questionCount c))) ++
    summaryRow (padText summaryWidth
      (cross ++ "  Failed          : " ++ padNumber 4 c.failed.length)) ++
    summaryBorder "└" "┘" ++ "\n"

/-- A catalog in one line. -/
def catalogLine (colors : Bool) (c : Catalog) : String :=
  "Licenses: " ++ (Style.colored .green).apply colors (toString c.licenses.length) ++
    "  Questions: " ++ toString (questionCount c) ++
    "  Failed: " ++ (Style.colored .red).apply colors (toString c.failed.length) ++ "\n"

def catalog (colors quiet : Bool) (locale : String) (c : Catalog) : String :=
  if quiet then catalogLine colors c
  else
    "\n " ++ Style.bold.apply colors programName ++ " v" ++ programVersion ++ "\n" ++
      " Locale: " ++ locale ++ "\n\n" ++ summary colors c ++
      String.join (c.licenses.map (license colors)) ++
      if c.isComplete then ""
      else
        " " ++ Style.apply ⟨some .bold, some .red⟩ colors "[ERROR]" ++ " Could not retrieve: " ++
          ", ".intercalate c.failed ++ "\n\n"

end LicenseChooser.Report
