import LicenseChooser.Proofs.CommandLine.Arguments

/-!
Every command line that is accepted says something: it can be taken apart into options with their
values and operands.
-/

namespace LicenseChooser.CommandLine

open Text

variable {l : Level} {next : Option (String × List String)}

theorem Amounts.awaiting {r : Reading} {y : Option Given} (h : Amounts (.ok r) y) :
    r.awaiting = false := by
  cases h
  assumption

/-- Arguments that say these items, up to what follows them. -/
def Covers (l : Level) (args : List String) (items : List Item) :
    Option (String × List String) → Prop
  | none => l.SaysAll args items
  | some (name, rest) => name ∈ l.commands ∧ ∃ before, args = before ++ name :: rest ∧ l.Says before items

theorem Covers.prepend {args said : List String} {items saying : List Item}
    (h : Covers l args items next)
    (hmore : ∀ {args items}, l.Says args items → l.Says (said ++ args) (saying ++ items)) :
    Covers l (said ++ args) (saying ++ items) next := by
  cases next with
  | none =>
      cases h with
      | plain h => exact .plain (hmore h)
      | escaped operands h =>
          rw [← List.append_assoc, ← List.append_assoc]
          exact .escaped operands (hmore h)
  | some p =>
      obtain ⟨hname, before, rfl, h⟩ := h
      exact ⟨hname, said ++ before, (List.append_assoc ..).symm, hmore h⟩

end LicenseChooser.CommandLine
