import LicenseChooser.Proofs.Text.Utf8
import LicenseChooser.Url.Percent

/-!
Percent-encoding read back. Where the sign itself is encoded, the bytes of a text come back from its
written form; and a character of the set is in no written form, unless it is the sign or a digit.
-/

namespace LicenseChooser.Url

open Text

theorem digitValue?_upperHexDigit {n : Nat} (h : n < 16) :
    digitValue? 16 (upperHexDigit n) = some n := by
  have hdigits : ∀ k : Fin 16, digitValue? 16 (upperHexDigit k) = some k.val := by decide
  exact hdigits ⟨n, h⟩

theorem percentDecode_encodeByte (b : UInt8) (rest : List Char) :
    percentDecode (encodeByte b ++ rest) = b :: percentDecode rest := by
  have hb : b.toNat < 256 := b.toNat_lt
  have hvalue : b.toNat / 16 * 16 + b.toNat % 16 = b.toNat := by omega
  rw [encodeByte, List.cons_append, List.cons_append, List.singleton_append, percentDecode,
    digitValue?_upperHexDigit (by omega), digitValue?_upperHexDigit (by omega)]
  simp only [hvalue, UInt8.ofNat_toNat]

theorem percentDecode_encodeBytes (bytes : List UInt8) (rest : List Char) :
    percentDecode (bytes.flatMap encodeByte ++ rest) = bytes ++ percentDecode rest := by
  induction bytes with
  | nil => rfl
  | cons b bytes ih =>
      rw [List.flatMap_cons, List.append_assoc, percentDecode_encodeByte, ih, List.cons_append]

theorem percentDecode_cons {c : Char} (h : c ≠ '%') (rest : List Char) :
    percentDecode (c :: rest) = encodeCharUtf8 c ++ percentDecode rest := by
  rw [percentDecode]
  rintro a b more rfl
  exact fun _ => h rfl

theorem percentDecode_percentEncode {set : Char → Bool} (h : set '%' = true) (cs : List Char) :
    percentDecode (percentEncode set cs) = encodeUtf8 cs := by
  induction cs with
  | nil => rw [percentEncode, List.flatMap_nil, percentDecode, encodeUtf8, List.flatMap_nil]
  | cons c cs ih =>
      rw [percentEncode, encodeUtf8] at ih ⊢
      rw [List.flatMap_cons, List.flatMap_cons]
      cases hc : set c with
      | true => rw [if_pos rfl, percentDecode_encodeBytes, ih]
      | false =>
          have hne : c ≠ '%' := by
            rintro rfl
            rw [h] at hc
            cases hc
          rw [if_neg Bool.false_ne_true, List.singleton_append, percentDecode_cons hne, ih]

theorem percentEncode_eq_self {set : Char → Bool} {cs : List Char}
    (h : ∀ c ∈ cs, set c = false) : percentEncode set cs = cs := by
  induction cs with
  | nil => rfl
  | cons c cs ih =>
      obtain ⟨hc, hrest⟩ := List.forall_mem_cons.1 h
      have hcs := ih hrest
      rw [percentEncode] at hcs ⊢
      rw [List.flatMap_cons, hcs, hc]
      rfl

/-- The sign and the digits that stand for bytes. -/
def isEscapeChar (c : Char) : Bool :=
  ['%', '0', '1', '2', '3', '4', '5', '6', '7', '8', '9', 'A', 'B', 'C', 'D', 'E', 'F'].contains c

theorem isEscapeChar_of_mem_encodeByte {b : UInt8} {c : Char} (h : c ∈ encodeByte b) :
    isEscapeChar c = true := by
  have hb : b.toNat < 256 := b.toNat_lt
  have hdigits : ∀ k : Fin 16, isEscapeChar (upperHexDigit k) = true := by decide
  rw [encodeByte, List.mem_cons, List.mem_cons, List.mem_singleton] at h
  rcases h with rfl | rfl | rfl
  · rfl
  · exact hdigits ⟨b.toNat / 16, by omega⟩
  · exact hdigits ⟨b.toNat % 16, by omega⟩

theorem not_mem_percentEncode {set : Char → Bool} {c : Char} (hset : set c = true)
    (hc : isEscapeChar c = false) (cs : List Char) : c ∉ percentEncode set cs := by
  intro hmem
  obtain ⟨d, -, hd⟩ := List.mem_flatMap.1 hmem
  split at hd
  · obtain ⟨b, -, hb⟩ := List.mem_flatMap.1 hd
    rw [isEscapeChar_of_mem_encodeByte hb] at hc
    cases hc
  · rename_i hplain
    obtain rfl := List.mem_singleton.1 hd
    exact hplain hset

end LicenseChooser.Url
