import LicenseChooser.Proofs.Markup.Escaping
import Mathlib.Data.List.Induction

/-!
What references stand for, without the reader. `Decodes` takes character data by its pieces: a
character stands for itself, and a reference for the character that has its name or its number. In a
number the first digit that is none, or that takes the value over a 32-bit word, decides. The reader
gives what the relation says, a refusal included, and nothing else.
-/

namespace LicenseChooser.Markup

open Text

theorem numeralValue?_concat (base : Nat) (digits : List Char) (c : Char) :
    numeralValue? base (digits ++ [c]) = (numeralValue? base digits).bind fun n =>
      (digitValue? base c).map (n * base + ·) := by
  simp only [numeralValue?, List.foldl_append, List.foldl_cons, List.foldl_nil]
  cases List.foldl _ (some 0) digits <;> cases digitValue? base c <;> rfl

theorem base_pos_of_digitValue? {base d : Nat} {c : Char} (h : digitValue? base c = some d) :
    0 < base := by
  simp only [digitValue?, Option.ite_none_right_eq_some] at h
  exact Nat.zero_lt_of_lt h.1

def Unsigned (cs : List Char) : Prop := ∀ c ∈ cs.head?, c ≠ '+' ∧ c ≠ '-'

/-- A number in `base` that fits into a word, or what is wrong with it. -/
inductive Numeral (base : Nat) : List Char → Except NumberError Nat → Prop
  | noDigits : Numeral base [] (.error .noDigits)
  | signed {sign rest} : sign = '+' ∨ sign = '-' → Numeral base (sign :: rest) (.error .signed)
  | value {digits n} :
      digits ≠ [] → Unsigned digits → numeralValue? base digits = some n → n < 0x100000000 →
        Numeral base digits (.ok n)
  | badDigit {before c after n} :
      Unsigned (before ++ c :: after) → numeralValue? base before = some n → n < 0x100000000 →
        digitValue? base c = none → Numeral base (before ++ c :: after) (.error .badDigit)
  | tooLarge {before c after n n'} :
      Unsigned (before ++ c :: after) → numeralValue? base before = some n → n < 0x100000000 →
        numeralValue? base (before ++ [c]) = some n' → 0x100000000 ≤ n' →
        Numeral base (before ++ c :: after) (.error .tooLarge)

/-- Digits whose value fits into a word are passed over. -/
theorem readWord_append {base n : Nat} {before : List Char}
    (h : numeralValue? base before = some n) (hn : n < 0x100000000) (after : List Char) :
    readWord base 0 (before ++ after) = readWord base n after := by
  -- from the back, because the value of all digits bounds the value at each of them
  induction before using List.reverseRecOn generalizing n after with
  | nil =>
      obtain rfl : 0 = n := by simpa [numeralValue?] using h
      rfl
  | append_singleton before c ih =>
      rw [numeralValue?_concat, Option.bind_eq_some_iff] at h
      obtain ⟨m, hm, hc⟩ := h
      obtain ⟨d, hd, rfl⟩ := Option.map_eq_some_iff.1 hc
      have hle : m ≤ m * base := Nat.le_mul_of_pos_right m (base_pos_of_digitValue? hd)
      rw [List.append_assoc, List.singleton_append, ih hm (by omega), readWord, hd]
      exact if_pos hn

/-- A text is a number that fits into a word, or it has a first character at which it is none. -/
theorem exists_value_or_defect (base : Nat) (cs : List Char) :
    (∃ n, numeralValue? base cs = some n ∧ n < 0x100000000) ∨
      ∃ before c after n, cs = before ++ c :: after ∧ numeralValue? base before = some n ∧
        n < 0x100000000 ∧ (digitValue? base c = none ∨
          ∃ n', numeralValue? base (before ++ [c]) = some n' ∧ 0x100000000 ≤ n') := by
  induction cs using List.reverseRecOn with
  | nil => exact .inl ⟨0, rfl, by decide⟩
  | append_singleton cs c ih =>
      rcases ih with ⟨n, hn, hlt⟩ | ⟨before, c', after, n, rfl, hn, hlt, hdefect⟩
      · cases hd : digitValue? base c with
        | none => exact .inr ⟨cs, c, [], n, rfl, hn, hlt, .inl hd⟩
        | some d =>
            have hvalue : numeralValue? base (cs ++ [c]) = some (n * base + d) := by
              rw [numeralValue?_concat, hn, hd]
              rfl
            rcases Nat.lt_or_ge (n * base + d) (0x100000000) with hfits | hlarge
            · exact .inl ⟨_, hvalue, hfits⟩
            · exact .inr ⟨cs, c, [], n, rfl, hn, hlt, .inr ⟨_, hvalue, hlarge⟩⟩
      · exact .inr ⟨before, c', after ++ [c], n, by simp, hn, hlt, hdefect⟩

namespace Numeral

theorem total (base : Nat) (cs : List Char) : ∃ r, Numeral base cs r := by
  match cs with
  | [] => exact ⟨_, .noDigits⟩
  | c :: rest =>
      by_cases hsign : c = '+' ∨ c = '-'
      · exact ⟨_, .signed hsign⟩
      · have hunsigned : Unsigned (c :: rest) := by
          rintro d ⟨⟩
          exact not_or.1 hsign
        rcases exists_value_or_defect base (c :: rest) with
          ⟨n, hn, hlt⟩ | ⟨before, c', after, n, hcs, hn, hlt, hnone | ⟨n', hn', hlarge⟩⟩
        · exact ⟨_, .value (List.cons_ne_nil c rest) hunsigned hn hlt⟩
        · rw [hcs] at hunsigned ⊢
          exact ⟨_, .badDigit hunsigned hn hlt hnone⟩
        · rw [hcs] at hunsigned ⊢
          exact ⟨_, .tooLarge hunsigned hn hlt hn' hlarge⟩

theorem readNumber_of_unsigned {base : Nat} {cs : List Char} (hne : cs ≠ []) (h : Unsigned cs) :
    readNumber base cs = readWord base 0 cs := by
  cases cs with
  | nil => exact absurd rfl hne
  | cons c rest => exact if_neg (not_or.2 (h c rfl))

theorem sound {base : Nat} {cs : List Char} {r : Except NumberError Nat}
    (h : Numeral base cs r) : readNumber base cs = r := by
  cases h with
  | noDigits => rfl
  | signed hsign => exact if_pos hsign
  | value hne hunsigned hn hlt =>
      have hread := readWord_append hn hlt []
      rw [List.append_nil] at hread
      rw [readNumber_of_unsigned hne hunsigned, hread, readWord]
  | badDigit hunsigned hn hlt hnone =>
      rw [readNumber_of_unsigned (by simp) hunsigned, readWord_append hn hlt, readWord, hnone]
  | tooLarge hunsigned hn hlt hn' hlarge =>
      rw [numeralValue?_concat, hn, Option.bind_some, Option.map_eq_some_iff] at hn'
      obtain ⟨d, hd, rfl⟩ := hn'
      rw [readNumber_of_unsigned (by simp) hunsigned, readWord_append hn hlt, readWord, hd]
      exact if_neg (Nat.not_lt.2 hlarge)

end Numeral

/-- Where there is a result, and none that the function does not give, it gives that result. -/
theorem iff_eq_of_exists {α : Type} {Result : α → Prop} {value : α}
    (sound : ∀ {r}, Result r → value = r) (total : ∃ r, Result r) {r : α} :
    Result r ↔ value = r := by
  constructor
  · exact sound
  · rintro rfl
    obtain ⟨r, h⟩ := total
    rwa [sound h]

theorem numeral_iff {base : Nat} {cs : List Char} {r : Except NumberError Nat} :
    Numeral base cs r ↔ readNumber base cs = r :=
  iff_eq_of_exists Numeral.sound (Numeral.total base cs)

/-- The character with a number. There is none with the number zero that a text may name. -/
inductive Numbered : Nat → Except NumberError Char → Prop
  | null : Numbered 0 (.error .null)
  | character {c : Char} : c.toNat ≠ 0 → Numbered c.toNat (.ok c)
  | notScalar {n} : n ≠ 0 → (∀ c : Char, c.toNat ≠ n) → Numbered n (.error (.notScalar n))

theorem toNat_ofNat_of_valid {n : Nat} (h : n.isValidChar) : (Char.ofNat n).toNat = n := by
  rw [Char.ofNat, dif_pos h]
  rfl

theorem numbered_iff {n : Nat} {r : Except NumberError Char} : Numbered n r ↔ scalar n = r := by
  have hvalid : ∀ c : Char, c.toNat.isValidChar := fun c => c.valid
  constructor
  · intro h
    cases h with
    | null => rfl
    | character hne => rw [scalar, if_neg hne, if_pos (hvalid _), Char.ofNat_toNat]
    | notScalar hne hnone =>
        have hnot : ¬ n.isValidChar := fun hv => hnone (Char.ofNat n) (toNat_ofNat_of_valid hv)
        rw [scalar, if_neg hne, if_neg hnot]
  · rintro rfl
    by_cases h0 : n = 0
    · subst h0
      exact .null
    · rw [scalar, if_neg h0]
      by_cases hv : n.isValidChar
      · have hnumber := toNat_ofNat_of_valid hv
        have hcharacter := Numbered.character (c := Char.ofNat n) (by rwa [hnumber])
        rw [hnumber] at hcharacter
        rwa [if_pos hv]
      · rw [if_neg hv]
        exact .notScalar h0 fun c hc => hv (hc ▸ hvalid c)

/-- The body of a numeric reference with its base and its digits. -/
inductive NumberBody : List Char → Nat → List Char → Prop
  | hexadecimal {digits} : NumberBody ('#' :: 'x' :: digits) 16 digits
  | decimal {digits} : digits.head? ≠ some 'x' → NumberBody ('#' :: digits) 10 digits

/-- What the body of a reference, which begins at byte `start`, stands for. The named characters are
those that are written as references. -/
inductive Names (start : Nat) : List Char → Except EntityError Char → Prop
  | predefined {c name} : escapeChar c = '&' :: (name ++ [';']) → Names start name (.ok c)
  | unknown {name} :
      name.head? ≠ some '#' → (∀ c, escapeChar c ≠ '&' :: (name ++ [';'])) →
        Names start name
          (.error (.unknown start (start + byteLength name) (String.ofList name)))
  | number {body base digits n r} :
      NumberBody body base digits → Numeral base digits (.ok n) → Numbered n r →
        Names start body (r.mapError .number)
  | badNumber {body base digits e} :
      NumberBody body base digits → Numeral base digits (.error e) →
        Names start body (.error (.number e))

theorem predefined?_eq_some_iff {name : List Char} {c : Char} :
    predefined? name = some c ↔ escapeChar c = '&' :: (name ++ [';']) := by
  constructor
  · intro h
    simp only [predefined?] at h
    split_ifs at h <;> cases h <;> subst name <;> rfl
  · intro h
    have hname : ∀ written, written ++ [';'] = name ++ [';'] → written = name := fun _ =>
      List.append_cancel_right
    unfold escapeChar at h
    split at h
    · obtain rfl := hname ['l', 't'] (List.cons.inj h).2
      rfl
    · obtain rfl := hname ['g', 't'] (List.cons.inj h).2
      rfl
    · obtain rfl := hname ['a', 'm', 'p'] (List.cons.inj h).2
      rfl
    · obtain rfl := hname ['a', 'p', 'o', 's'] (List.cons.inj h).2
      rfl
    · obtain rfl := hname ['q', 'u', 'o', 't'] (List.cons.inj h).2
      rfl
    · simp at h

theorem resolve_of_numberBody {body digits : List Char} {base : Nat}
    (h : NumberBody body base digits) (start : Nat) :
    resolve start body = ((readNumber base digits).bind scalar).mapError .number := by
  cases h with
  | hexadecimal => rfl
  | decimal hx =>
      unfold resolve
      split <;> simp_all

theorem resolve_of_named {name : List Char} (h : name.head? ≠ some '#') (start : Nat) :
    resolve start name =
      match predefined? name with
      | some c => .ok c
      | none => .error (.unknown start (start + byteLength name) (String.ofList name)) := by
  unfold resolve
  split
  · simp at h
  · simp at h
  · rfl

theorem exists_numberBody {body : List Char} (h : body.head? = some '#') :
    ∃ base digits, NumberBody body base digits := by
  obtain ⟨rest, rfl⟩ := List.head?_eq_some_iff.1 h
  by_cases hx : rest.head? = some 'x'
  · obtain ⟨digits, rfl⟩ := List.head?_eq_some_iff.1 hx
    exact ⟨_, _, .hexadecimal⟩
  · exact ⟨_, _, .decimal hx⟩

namespace Names

theorem total (start : Nat) (body : List Char) : ∃ r, Names start body r := by
  by_cases hhash : body.head? = some '#'
  · obtain ⟨base, digits, hbody⟩ := exists_numberBody hhash
    obtain ⟨r, hr⟩ := Numeral.total base digits
    cases r with
    | ok n => exact ⟨_, .number hbody hr (numbered_iff.2 rfl)⟩
    | error e => exact ⟨_, .badNumber hbody hr⟩
  · cases hname : predefined? body with
    | some c => exact ⟨_, .predefined (predefined?_eq_some_iff.1 hname)⟩
    | none =>
        refine ⟨_, .unknown hhash fun c hc => ?_⟩
        rw [predefined?_eq_some_iff.2 hc] at hname
        cases hname

theorem sound {start : Nat} {body : List Char} {r : Except EntityError Char}
    (h : Names start body r) : resolve start body = r := by
  cases h with
  | predefined hc =>
      have hname := predefined?_eq_some_iff.2 hc
      rw [resolve_of_named, hname]
      rintro hhash
      obtain ⟨rest, rfl⟩ := List.head?_eq_some_iff.1 hhash
      simp [predefined?] at hname
  | unknown hhash hnone =>
      have hname : predefined? body = none := by
        rw [Option.eq_none_iff_forall_ne_some]
        exact fun c hc => hnone c (predefined?_eq_some_iff.1 hc)
      rw [resolve_of_named hhash, hname]
  | number hbody hdigits hn =>
      rw [resolve_of_numberBody hbody, numeral_iff.1 hdigits, ← numbered_iff.1 hn]
      rfl
  | badNumber hbody hdigits =>
      rw [resolve_of_numberBody hbody, numeral_iff.1 hdigits]
      rfl

end Names

theorem names_iff {start : Nat} {body : List Char} {r : Except EntityError Char} :
    Names start body r ↔ resolve start body = r :=
  iff_eq_of_exists Names.sound (Names.total start body)

/-- Nothing in the body of a reference begins or ends one. -/
def IsBody (cs : List Char) : Prop := ∀ c ∈ cs, c ≠ '&' ∧ c ≠ ';'

/-- What character data, which begins at byte `position`, stands for, or why its first reference that
stands for nothing does so. -/
inductive Decodes : Nat → List Char → Except EntityError (List Char) → Prop
  | nil {position} : Decodes position [] (.ok [])
  | plain {position c cs r} :
      c ≠ '&' → Decodes (position + c.utf8Size) cs r →
        Decodes position (c :: cs) (r.map (c :: ·))
  | reference {position body c cs r} :
      IsBody body → Names (position + 1) body (.ok c) →
        Decodes (position + byteLength ('&' :: (body ++ [';']))) cs r →
        Decodes position ('&' :: (body ++ ';' :: cs)) (r.map (c :: ·))
  | refused {position body cs e} :
      IsBody body → Names (position + 1) body (.error e) →
        Decodes position ('&' :: (body ++ ';' :: cs)) (.error e)
  | unterminated {position body cs} :
      IsBody body → (∀ c ∈ cs.head?, c = '&') →
        Decodes position ('&' :: (body ++ cs))
          (.error (.unterminated position (position + byteLength ('&' :: (body ++ cs)))))

theorem isBody_iff {cs : List Char} : IsBody cs ↔ cs.all (fun c => c != '&' && c != ';') = true := by
  simp [IsBody]

theorem byteLength_reference (body : List Char) :
    byteLength ('&' :: (body ++ [';'])) = byteLength body + 2 := by
  have hmarks : '&'.utf8Size = 1 ∧ ';'.utf8Size = 1 := ⟨rfl, rfl⟩
  simp only [byteLength, byteLength_append, hmarks]
  omega

theorem unescapeFrom_refused (position : Nat) {body : List Char} {e : EntityError}
    (hb : IsBody body) (he : resolve (position + 1) body = .error e) (rest : List Char) :
    unescapeFrom position ('&' :: (body ++ ';' :: rest)) = .error e := by
  obtain ⟨htake, hdrop⟩ := run_append (List.all_eq_true.1 (isBody_iff.1 hb)) (';' :: rest) (by simp)
  rw [unescapeFrom, if_pos rfl]
  split
  · simp only [htake, he]
    rfl
  · rename_i hne
    exact absurd hdrop (hne rest)

theorem unescapeFrom_unterminated (position : Nat) {body rest : List Char} (hb : IsBody body)
    (hrest : ∀ c ∈ rest.head?, c = '&') :
    unescapeFrom position ('&' :: (body ++ rest)) =
      .error (.unterminated position (position + byteLength ('&' :: (body ++ rest)))) := by
  have hend : ∀ c ∈ rest.head?, (c != '&' && c != ';') = false := fun c hc => by
    simp [hrest c hc]
  obtain ⟨-, hdrop⟩ := run_append (List.all_eq_true.1 (isBody_iff.1 hb)) rest hend
  rw [unescapeFrom, if_pos rfl]
  split
  · rename_i after heq
    rw [hdrop] at heq
    simp [heq] at hrest
  · rfl

namespace Decodes

theorem total (position : Nat) (cs : List Char) : ∃ r, Decodes position cs r := by
  -- a reference takes more than one character, so the recursion is on the length
  match cs with
  | [] => exact ⟨_, .nil⟩
  | c :: rest =>
      by_cases hc : c = '&'
      · subst hc
        obtain ⟨body, behind, rfl, hrun, hstop⟩ := exists_run (fun d => d != '&' && d != ';') rest
        have hbody : IsBody body := isBody_iff.2 (List.all_eq_true.2 hrun)
        by_cases hend : behind.head? = some ';'
        · obtain ⟨after, rfl⟩ := List.head?_eq_some_iff.1 hend
          obtain ⟨r, hr⟩ := Names.total (position + 1) body
          cases r with
          | error e => exact ⟨_, .refused hbody hr⟩
          | ok value =>
              obtain ⟨r, hafter⟩ := total (position + byteLength ('&' :: (body ++ [';']))) after
              exact ⟨_, .reference hbody hr hafter⟩
        · refine ⟨_, .unterminated hbody fun d hd => ?_⟩
          have hd' := hstop d hd
          rw [Option.mem_def.1 hd, Option.some.injEq] at hend
          simpa [hend] using hd'
      · obtain ⟨r, hr⟩ := total (position + c.utf8Size) rest
        exact ⟨_, .plain hc hr⟩
  termination_by cs.length

theorem sound {position : Nat} {cs : List Char} {r : Except EntityError (List Char)}
    (h : Decodes position cs r) : unescapeFrom position cs = r := by
  induction h with
  | nil => rw [unescapeFrom]
  | plain hc _ ih => rw [unescapeFrom_cons _ hc, ih]
  | reference hbody hname _ ih =>
      rw [unescapeFrom_reference _ _ (isBody_iff.1 hbody) (names_iff.1 hname), ← ih,
        byteLength_reference, Nat.add_assoc]
  | refused hbody hname => exact unescapeFrom_refused _ hbody (names_iff.1 hname) _
  | unterminated hbody hend => exact unescapeFrom_unterminated _ hbody hend

end Decodes

theorem decodes_iff {position : Nat} {cs : List Char} {r : Except EntityError (List Char)} :
    Decodes position cs r ↔ unescapeFrom position cs = r :=
  iff_eq_of_exists Decodes.sound (Decodes.total position cs)

theorem decodes_escape (cs : List Char) : Decodes 0 (escape cs) (.ok cs) :=
  decodes_iff.2 (unescape_escape cs)

end LicenseChooser.Markup
