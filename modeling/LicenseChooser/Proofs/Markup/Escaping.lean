import LicenseChooser.Markup.Source
import LicenseChooser.Proofs.Text.Scanning

/-!
Escaping and reading references. Every text comes back from its written form, and the written form
has no character with which markup could begin or a quoted value could end.
-/

namespace LicenseChooser.Markup

open Text

theorem unescapeFrom_cons (position : Nat) {c : Char} (h : c ≠ '&') (rest : List Char) :
    unescapeFrom position (c :: rest) =
      (unescapeFrom (position + c.utf8Size) rest).map (c :: ·) := by
  rw [unescapeFrom, if_neg h]
  cases unescapeFrom (position + c.utf8Size) rest <;> rfl

theorem unescapeFrom_reference (position : Nat) (body : List Char) {value : Char}
    (hb : body.all (fun c => c != '&' && c != ';') = true)
    (hv : resolve (position + 1) body = .ok value) (rest : List Char) :
    unescapeFrom position ('&' :: (body ++ ';' :: rest)) =
      (unescapeFrom (position + byteLength body + 2) rest).map (value :: ·) := by
  obtain ⟨htake, hdrop⟩ := run_append (List.all_eq_true.1 hb) (';' :: rest) (by simp)
  rw [unescapeFrom, if_pos rfl]
  split
  · rename_i after heq
    rw [hdrop, List.cons.injEq] at heq
    simp only [htake]
    rw [hv, ← heq.2]
    cases unescapeFrom (position + byteLength body + 2) rest <;> rfl
  · rename_i hne
    exact absurd hdrop (hne rest)

theorem escapeChar_of_plain {c : Char} (h : c ≠ '<' ∧ c ≠ '>' ∧ c ≠ '&' ∧ c ≠ '\'' ∧ c ≠ '"') :
    escapeChar c = [c] := by
  unfold escapeChar
  split <;> simp_all

/-- What a character is written as reads back as this character and nothing more. -/
theorem unescapeFrom_escapeChar (position : Nat) (c : Char) (rest : List Char) :
    ∃ position', unescapeFrom position (escapeChar c ++ rest) =
      (unescapeFrom position' rest).map (c :: ·) := by
  by_cases h : c ≠ '<' ∧ c ≠ '>' ∧ c ≠ '&' ∧ c ≠ '\'' ∧ c ≠ '"'
  · rw [escapeChar_of_plain h]
    exact ⟨_, unescapeFrom_cons position h.2.2.1 rest⟩
  · have hc : c = '<' ∨ c = '>' ∨ c = '&' ∨ c = '\'' ∨ c = '"' := by
      simp only [ne_eq, Classical.not_and_iff_not_or_not, Decidable.not_not] at h
      exact h
    rcases hc with rfl | rfl | rfl | rfl | rfl
    · exact ⟨_, unescapeFrom_reference position ['l', 't'] rfl rfl rest⟩
    · exact ⟨_, unescapeFrom_reference position ['g', 't'] rfl rfl rest⟩
    · exact ⟨_, unescapeFrom_reference position ['a', 'm', 'p'] rfl rfl rest⟩
    · exact ⟨_, unescapeFrom_reference position ['a', 'p', 'o', 's'] rfl rfl rest⟩
    · exact ⟨_, unescapeFrom_reference position ['q', 'u', 'o', 't'] rfl rfl rest⟩

theorem unescapeFrom_escape (position : Nat) (cs : List Char) :
    unescapeFrom position (escape cs) = .ok cs := by
  induction cs generalizing position with
  | nil => rw [escape, List.flatMap_nil, unescapeFrom]
  | cons c cs ih =>
      obtain ⟨position', h⟩ := unescapeFrom_escapeChar position c (escape cs)
      rw [escape, List.flatMap_cons]
      rw [escape] at h ih
      rw [h, ih]
      rfl

theorem unescape_escape (cs : List Char) : unescape (escape cs) = .ok cs :=
  unescapeFrom_escape 0 cs

theorem escape_injective {cs ds : List Char} (h : escape cs = escape ds) : cs = ds := by
  have hcs := unescape_escape cs
  rw [h, unescape_escape, Except.ok.injEq] at hcs
  exact hcs.symm

theorem plain_of_mem_escape {cs : List Char} {d : Char} (h : d ∈ escape cs) :
    d ≠ '<' ∧ d ≠ '>' ∧ d ≠ '\'' ∧ d ≠ '"' := by
  obtain ⟨c, -, hd⟩ := List.mem_flatMap.1 h
  unfold escapeChar at hd
  split at hd <;> simp at hd <;> grind

theorem escapeChar_ne_nil (c : Char) : escapeChar c ≠ [] := by
  unfold escapeChar
  split <;> simp

theorem escape_eq_nil_iff (cs : List Char) : escape cs = [] ↔ cs = [] := by
  cases cs with
  | nil => simp [escape]
  | cons c cs => simp [escape, escapeChar_ne_nil]

end LicenseChooser.Markup
