import Mathlib.Data.List.Nodup

/-!
Lists of pairs with distinct first parts, looked up by the first part.
-/

namespace LicenseChooser

theorem lookup_cons_eq {β : Type} (key k : String) (v : β) (pairs : List (String × β)) :
    ((k, v) :: pairs).lookup key = if key = k then some v else pairs.lookup key := by
  by_cases h : key = k
  · rw [if_pos h, h, List.lookup_cons_self]
  · rw [if_neg h, List.lookup_cons, beq_eq_false_iff_ne.2 h]

theorem nodup_zip {α β : Type} {xs : List α} (h : xs.Nodup) (ys : List β) :
    ((xs.zip ys).map (·.1)).Nodup := by
  rw [List.zip_eq_zip_take_min, List.map_fst_zip (by simp)]
  exact h.sublist (List.take_sublist _ _)

section Pairs

variable {pairs : List (String × String)}

theorem lookup_of_mem (hnodup : (pairs.map (·.1)).Nodup) {key value : String}
    (h : (key, value) ∈ pairs) : pairs.lookup key = some value := by
  induction pairs with
  | nil => cases h
  | cons p pairs ih =>
      rw [List.map_cons, List.nodup_cons] at hnodup
      rcases List.mem_cons.1 h with rfl | h
      · exact List.lookup_cons_self
      · have hne : key ≠ p.1 := fun he => hnodup.1 (he ▸ List.mem_map_of_mem h)
        rw [lookup_cons_eq, if_neg hne]
        exact ih hnodup.2 h

theorem lookup_eq_some_iff_mem (hnodup : (pairs.map (·.1)).Nodup) (key value : String) :
    pairs.lookup key = some value ↔ (key, value) ∈ pairs := by
  constructor
  · intro h
    obtain ⟨earlier, later, rfl, -⟩ := List.lookup_eq_some_iff.1 h
    simp
  · exact lookup_of_mem hnodup

/-- Both hold the same pairs in some order when their lookups agree. -/
theorem perm_iff_lookup {pairs' : List (String × String)} (hnodup : (pairs.map (·.1)).Nodup)
    (hnodup' : (pairs'.map (·.1)).Nodup) :
    pairs.Perm pairs' ↔ ∀ key, pairs.lookup key = pairs'.lookup key := by
  rw [List.perm_ext_iff_of_nodup hnodup.of_map hnodup'.of_map]
  constructor
  · intro h key
    apply Option.ext
    intro value
    rw [lookup_eq_some_iff_mem hnodup, lookup_eq_some_iff_mem hnodup', h]
  · rintro h ⟨key, value⟩
    rw [← lookup_eq_some_iff_mem hnodup, ← lookup_eq_some_iff_mem hnodup', h]

end Pairs

end LicenseChooser
