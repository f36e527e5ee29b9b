import LicenseChooser.Text.Utf8

/-!
UTF-8 read back. The bytes of a character are read as this character with any bytes after them, so a
text comes back from its bytes, and no two texts have the same.
-/

namespace LicenseChooser.Text

theorem toNat_bounds (c : Char) :
    c.toNat < 0xD800 ∨ 0xDFFF < c.toNat ∧ c.toNat < 0x110000 := c.valid

theorem toNat_ofNat_byte {n : Nat} (h : n < 0x100) : (UInt8.ofNat n).toNat = n := by
  rw [UInt8.toNat_ofNat', Nat.mod_eq_of_lt h]

theorem readTail_cons {following bits low high n : Nat} (hn : n < 0x100) (h : low ≤ n ∧ n ≤ high)
    (rest : List UInt8) :
    readTail (following + 1) bits low high (.ofNat n :: rest) =
      readTail following (bits * 64 + (n - 0x80)) 0x80 0xBF rest := by
  rw [readTail, toNat_ofNat_byte hn, if_pos h]

theorem decodeUtf8_ascii {n : Nat} (h : n < 0x80) (rest : List UInt8) :
    decodeUtf8 (.ofNat n :: rest) = Char.ofNat n :: decodeUtf8 rest := by
  rw [decodeUtf8, toNat_ofNat_byte (by omega), if_pos h]

/-- A lead byte whose tail is complete. -/
theorem decodeUtf8_lead {n value : Nat} {l : Lead} {tail rest : List UInt8}
    (hn : 0x80 ≤ n ∧ n < 0x100) (hl : lead? n = some l)
    (ht : readTail l.following l.bits l.low l.high tail = (some (Char.ofNat value), rest)) :
    decodeUtf8 (.ofNat n :: tail) = Char.ofNat value :: decodeUtf8 rest := by
  rw [decodeUtf8, toNat_ofNat_byte hn.2, if_neg (by omega), hl]
  simp only [ht, Option.getD_some]

theorem decodeUtf8_two {n : Nat} (h : 0x80 ≤ n ∧ n < 0x800) (rest : List UInt8) :
    decodeUtf8 (.ofNat (0xC0 + n / 0x40) :: .ofNat (0x80 + n % 64) :: rest) =
      Char.ofNat n :: decodeUtf8 rest := by
  have hlead : lead? (0xC0 + n / 0x40) = some ⟨1, 0xC0 + n / 0x40 - 0xC0, 0x80, 0xBF⟩ := by
    rw [lead?, if_pos (by omega)]
  have hvalue : (0xC0 + n / 0x40 - 0xC0) * 64 + (0x80 + n % 64 - 0x80) = n := by omega
  apply decodeUtf8_lead (by omega) hlead
  rw [readTail_cons (by omega) (by dsimp only; omega), hvalue, readTail]

/-- The numbers of surrogates are those that the second byte after ED leaves out. -/
theorem decodeUtf8_three {n : Nat} (h : 0x800 ≤ n ∧ n < 0x10000) (hs : n < 0xD800 ∨ 0xDFFF < n)
    (rest : List UInt8) :
    decodeUtf8 (.ofNat (0xE0 + n / 0x1000) :: .ofNat (0x80 + n / 0x40 % 64) ::
      .ofNat (0x80 + n % 64) :: rest) = Char.ofNat n :: decodeUtf8 rest := by
  have hlead : lead? (0xE0 + n / 0x1000) =
      some ⟨2, 0xE0 + n / 0x1000 - 0xE0, if 0xE0 + n / 0x1000 = 0xE0 then 0xA0 else 0x80,
        if 0xE0 + n / 0x1000 = 0xED then 0x9F else 0xBF⟩ := by
    rw [lead?, if_neg (by omega), if_pos (by omega)]
  have hvalue : ((0xE0 + n / 0x1000 - 0xE0) * 64 + (0x80 + n / 0x40 % 64 - 0x80)) * 64 +
      (0x80 + n % 64 - 0x80) = n := by omega
  apply decodeUtf8_lead (by omega) hlead
  rw [readTail_cons (by omega) (by dsimp only; split <;> split <;> omega),
    readTail_cons (by omega) (by omega), hvalue, readTail]

theorem decodeUtf8_four {n : Nat} (h : 0x10000 ≤ n ∧ n < 0x110000) (rest : List UInt8) :
    decodeUtf8 (.ofNat (0xF0 + n / 0x40000) :: .ofNat (0x80 + n / 0x1000 % 64) ::
      .ofNat (0x80 + n / 0x40 % 64) :: .ofNat (0x80 + n % 64) :: rest) =
      Char.ofNat n :: decodeUtf8 rest := by
  have hlead : lead? (0xF0 + n / 0x40000) =
      some ⟨3, 0xF0 + n / 0x40000 - 0xF0, if 0xF0 + n / 0x40000 = 0xF0 then 0x90 else 0x80,
        if 0xF0 + n / 0x40000 = 0xF4 then 0x8F else 0xBF⟩ := by
    rw [lead?, if_neg (by omega), if_neg (by omega), if_pos (by omega)]
  have hvalue : (((0xF0 + n / 0x40000 - 0xF0) * 64 + (0x80 + n / 0x1000 % 64 - 0x80)) * 64 +
      (0x80 + n / 0x40 % 64 - 0x80)) * 64 + (0x80 + n % 64 - 0x80) = n := by omega
  apply decodeUtf8_lead (by omega) hlead
  rw [readTail_cons (by omega) (by dsimp only; split <;> split <;> omega),
    readTail_cons (by omega) (by omega), readTail_cons (by omega) (by omega), hvalue, readTail]

theorem decodeUtf8_encodeCharUtf8 (c : Char) (rest : List UInt8) :
    decodeUtf8 (encodeCharUtf8 c ++ rest) = c :: decodeUtf8 rest := by
  have hbounds := toNat_bounds c
  rw [encodeCharUtf8]
  simp only [Nat.div_one]
  split
  · rename_i h
    rw [List.singleton_append, decodeUtf8_ascii h, Char.ofNat_toNat]
  split
  · rw [List.cons_append, List.singleton_append, decodeUtf8_two (by omega), Char.ofNat_toNat]
  split
  · rw [List.cons_append, List.cons_append, List.singleton_append,
      decodeUtf8_three (by omega) (by omega), Char.ofNat_toNat]
  · rw [List.cons_append, List.cons_append, List.cons_append, List.singleton_append,
      decodeUtf8_four (by omega), Char.ofNat_toNat]

theorem decodeUtf8_encodeUtf8 (cs : List Char) : decodeUtf8 (encodeUtf8 cs) = cs := by
  induction cs with
  | nil => rw [encodeUtf8, List.flatMap_nil, decodeUtf8]
  | cons c cs ih =>
      rw [encodeUtf8] at ih ⊢
      rw [List.flatMap_cons, decodeUtf8_encodeCharUtf8, ih]

theorem readUtf8?_encodeUtf8 (cs : List Char) : readUtf8? (encodeUtf8 cs) = some cs := by
  rw [readUtf8?, decodeUtf8_encodeUtf8]
  exact if_pos rfl

end LicenseChooser.Text
