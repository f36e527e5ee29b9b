/-!
Cutting a text at a character or at a delimiter. The parts put together give the text back, and
what is left is never longer than what was given: every reader of the library ends by this.
-/

namespace LicenseChooser.Text

/-- What stands before and after the first occurrence of `delimiter`. -/
def breakOn (delimiter : List Char) : List Char → Option (List Char × List Char)
  | [] => if delimiter.isEmpty then some ([], []) else none
  | c :: rest =>
      if delimiter.isPrefixOf (c :: rest) then some ([], (c :: rest).drop delimiter.length)
      else (breakOn delimiter rest).map fun (before, after) => (c :: before, after)

/-- The parts between the characters that satisfy `p`; always at least one. -/
def splitWhere (p : Char → Bool) : List Char → List (List Char)
  | [] => [[]]
  | c :: rest =>
      if p c then [] :: splitWhere p rest
      else
        match splitWhere p rest with
        | part :: parts => (c :: part) :: parts
        | [] => [[c]]

/-- What stands before and after the first character that satisfies `p`, that character dropped;
nothing stands after it when there is none. -/
def cutWhere (p : Char → Bool) (cs : List Char) : List Char × Option (List Char) :=
  match cs.dropWhile (!p ·) with
  | _ :: after => (cs.takeWhile (!p ·), some after)
  | [] => (cs, none)

theorem length_dropWhile_le (p : Char → Bool) (cs : List Char) :
    (cs.dropWhile p).length ≤ cs.length :=
  (List.dropWhile_sublist p).length_le

theorem append_of_breakOn {delimiter cs before after : List Char}
    (h : breakOn delimiter cs = some (before, after)) : cs = before ++ delimiter ++ after := by
  induction cs generalizing before with
  | nil =>
      cases delimiter <;> simp_all [breakOn]
  | cons c rest ih =>
      simp only [breakOn] at h
      split at h
      · rename_i hp
        obtain ⟨t, ht⟩ := List.isPrefixOf_iff_prefix.1 hp
        simp only [Option.some.injEq, Prod.mk.injEq] at h
        obtain ⟨rfl, rfl⟩ := h
        simp [← ht]
      · obtain ⟨p, hp, he⟩ := Option.map_eq_some_iff.1 h
        simp only [Prod.mk.injEq] at he
        obtain ⟨rfl, rfl⟩ := he
        simp [ih hp]

theorem length_of_breakOn {delimiter cs before after : List Char}
    (h : breakOn delimiter cs = some (before, after)) : after.length ≤ cs.length := by
  rw [append_of_breakOn h]; simp; omega

end LicenseChooser.Text
