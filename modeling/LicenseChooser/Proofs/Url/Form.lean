import LicenseChooser.Proofs.Text.Scanning
import LicenseChooser.Proofs.Url.Percent
import LicenseChooser.Url.Form

/-!
Pairs in a query read back. What separates pairs, and a name from its value, never stands in a written
name or value, so a pair comes back as it was, whatever characters it has, and brings no other one.
-/

namespace LicenseChooser.Url.Form

open Text

/-- What is written as its bytes. -/
def isEscaped (c : Char) : Bool := !isPlain c && c != ' '

theorem map_plus_encodeChar (c : Char) :
    (encodeChar c).map (fun d => if d = '+' then ' ' else d) =
      if isEscaped c then (encodeCharUtf8 c).flatMap encodeByte else [c] := by
  rw [encodeChar, isEscaped]
  cases hplain : isPlain c with
  | true =>
      have hne : c ≠ '+' := by
        rintro rfl
        cases hplain
      simp [hne]
  | false =>
      by_cases hblank : c = ' '
      · simp [hblank]
      · have hkept : ∀ d ∈ (encodeCharUtf8 c).flatMap encodeByte,
            (if d = '+' then ' ' else d) = d := by
          intro d hd
          obtain ⟨b, -, hb⟩ := List.mem_flatMap.1 hd
          refine if_neg ?_
          rintro rfl
          cases isEscapeChar_of_mem_encodeByte hb
        simp [hblank, List.map_congr_left hkept]

/-- Without its plus signs a written text is percent-encoded. -/
theorem map_plus_encode (cs : List Char) :
    (encode cs).map (fun d => if d = '+' then ' ' else d) = percentEncode isEscaped cs := by
  rw [encode, percentEncode, List.map_flatMap]
  simp only [map_plus_encodeChar]

theorem decode_encode (cs : List Char) : decode (encode cs) = cs := by
  rw [decode, map_plus_encode, percentDecode_percentEncode rfl, decodeUtf8_encodeUtf8]

theorem not_mem_encode {c : Char} (hplain : isPlain c = false) (hplus : c ≠ '+')
    (hescape : isEscapeChar c = false) (cs : List Char) : c ∉ encode cs := by
  intro hmem
  obtain ⟨d, -, hd⟩ := List.mem_flatMap.1 hmem
  rw [encodeChar] at hd
  split at hd
  · rename_i h
    rw [← List.mem_singleton.1 hd, hplain] at h
    cases h
  split at hd
  · exact hplus (List.mem_singleton.1 hd)
  · obtain ⟨b, -, hb⟩ := List.mem_flatMap.1 hd
    rw [isEscapeChar_of_mem_encodeByte hb] at hescape
    cases hescape

theorem not_mem_encodePair {c : Char} (hplain : isPlain c = false) (hplus : c ≠ '+')
    (hescape : isEscapeChar c = false) (hequals : c ≠ '=') (name value : String) :
    c ∉ encodePair name value := by
  rw [encodePair, List.mem_append, List.mem_cons, not_or, not_or]
  exact ⟨not_mem_encode hplain hplus hescape _, hequals, not_mem_encode hplain hplus hescape _⟩

/-- A pair is read as this pair alone. -/
theorem decodePairs_encodePair (name value : String) :
    decodePairs (encodePair name value) = [(name.toList, value.toList)] := by
  have hsplit : splitWhere (· == '&') (encodePair name value) = [encodePair name value] := by
    refine splitWhere_of_none fun d hd => beq_eq_false_iff_ne.2 ?_
    rintro rfl
    exact not_mem_encodePair rfl (by decide) rfl (by decide) name value hd
  have hname : ∀ d ∈ encode name.toList, (d == '=') = false := by
    refine fun d hd => beq_eq_false_iff_ne.2 ?_
    rintro rfl
    exact not_mem_encode rfl (by decide) rfl _ hd
  have hcut : cutWhere (· == '=') (encodePair name value) =
      (encode name.toList, some (encode value.toList)) := cutWhere_append hname rfl _
  have hfilter : [encodePair name value].filter (!·.isEmpty) = [encodePair name value] := by
    simp [encodePair]
  rw [decodePairs, hsplit, hfilter, List.map_singleton, hcut]
  simp only [decode_encode, Option.getD_some]

end LicenseChooser.Url.Form
