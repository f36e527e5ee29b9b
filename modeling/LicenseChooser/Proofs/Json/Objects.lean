import LicenseChooser.Json.Decoding
import LicenseChooser.Json.Writing
import Mathlib.Tactic.SplitIfs

/-!
Objects of strings. A string can be spelled in many ways and blanks may stand between the tokens;
however an object is written, its members are read in order, repeated names included. The compact form
is one of these.
-/

namespace LicenseChooser.Json

open Text

/-- How characters can be written in a string: as they are, with a short escape, or by their number in
one 16-bit unit or two. -/
inductive Spells : List Char → List Char → Prop
  | nil : Spells [] []
  | plain {c written cs} : 0x20 ≤ c.toNat → c ≠ '"' → c ≠ '\\' → Spells written cs →
      Spells (c :: written) (c :: cs)
  | short {letter c written cs} : shortEscape? letter = some c → Spells written cs →
      Spells ('\\' :: letter :: written) (c :: cs)
  | unit {a b c d n written cs} : unit? a b c d = some n → n.isValidChar → Spells written cs →
      Spells ('\\' :: 'u' :: a :: b :: c :: d :: written) (.ofNat n :: cs)
  | pair {a b c d a' b' c' d' high low written cs} :
      unit? a b c d = some high → 0xD800 ≤ high → high ≤ 0xDBFF →
      unit? a' b' c' d' = some low → 0xDC00 ≤ low → low ≤ 0xDFFF → Spells written cs →
      Spells ('\\' :: 'u' :: a :: b :: c :: d :: '\\' :: 'u' :: a' :: b' :: c' :: d' :: written)
        (.ofNat (0x10000 + (high - 0xD800) * 0x400 + (low - 0xDC00)) :: cs)

def Blanks (cs : List Char) : Prop := ∀ c ∈ cs, isSpace c = true

/-- How a member can be written. -/
inductive WritesMember : List Char → String × String → Prop
  | mk {key name before after value characters} :
      Spells key name.toList → Blanks before → Blanks after → Spells value characters.toList →
      WritesMember ('"' :: (key ++ '"' :: (before ++ ':' :: (after ++ '"' :: (value ++ ['"'])))))
        (name, characters)

/-- How the members after another and the end of the object can be written. -/
inductive WritesRest : List Char → List (String × String) → Prop
  | close {blanks} : Blanks blanks → WritesRest (blanks ++ ['\x7d']) []
  | member {before after written rest p ps} :
      Blanks before → Blanks after → WritesMember written p → WritesRest rest ps →
      WritesRest (before ++ ',' :: (after ++ (written ++ rest))) (p :: ps)

/-- How an object with these members can be written as a whole text. -/
inductive WritesObject : List Char → List (String × String) → Prop
  | empty {before blanks after} : Blanks before → Blanks blanks → Blanks after →
      WritesObject (before ++ '\x7b' :: (blanks ++ '\x7d' :: after)) []
  | members {before blanks written rest after p ps} :
      Blanks before → Blanks blanks → WritesMember written p → WritesRest rest ps → Blanks after →
      WritesObject (before ++ '\x7b' :: (blanks ++ (written ++ (rest ++ after)))) (p :: ps)

section Strings

theorem assemble?_unit {n : Nat} (h : n.isValidChar) (ps : List Piece) :
    assemble? (.unit n :: ps) = (assemble? ps).map (.ofNat n :: ·) := by
  have hsurrogate : ¬ (0xD800 ≤ n ∧ n ≤ 0xDBFF) := by
    rcases h with h | h <;> omega
  cases ps with
  | nil => simp only [assemble?, if_pos h]
  | cons p ps =>
      cases p with
      | char c => simp only [assemble?, if_pos h]
      | unit low => rw [assemble?, if_neg hsurrogate, if_pos h]

theorem pieces?_of_spells {written cs : List Char} (h : Spells written cs) (rest : List Char) :
    ∃ ps, pieces? (written ++ '"' :: rest) = some (ps, rest) ∧ assemble? ps = some cs := by
  induction h with
  | nil => exact ⟨[], rfl, rfl⟩
  | @plain c written cs hcode hquote hslash _ ih =>
      obtain ⟨ps, hps, hcs⟩ := ih
      have hplain : ¬ (c.toNat < 0x20 ∨ c = '\\') := by
        rintro (h | h)
        · omega
        · exact hslash h
      refine ⟨.char c :: ps, ?_, by rw [assemble?, hcs]; rfl⟩
      rw [List.cons_append, pieces?, if_neg hplain, hps]
      · rfl
      all_goals simp_all
  | @short letter c written cs hc _ ih =>
      obtain ⟨ps, hps, hcs⟩ := ih
      refine ⟨.char c :: ps, ?_, by rw [assemble?, hcs]; rfl⟩
      have hu : letter ≠ 'u' := by
        rintro rfl
        cases hc
      rw [List.cons_append, List.cons_append, pieces?, hc, hps]
      · rfl
      · intro a b c d more h _
        exact hu h
  | @unit a b c d n written cs hn hvalid _ ih =>
      obtain ⟨ps, hps, hcs⟩ := ih
      refine ⟨.unit n :: ps, ?_, by rw [assemble?_unit hvalid, hcs]; rfl⟩
      simp only [List.cons_append, pieces?, hn, hps]
      rfl
  | @pair a b c d a' b' c' d' high low written cs hh hh1 hh2 hl hl1 hl2 _ ih =>
      obtain ⟨ps, hps, hcs⟩ := ih
      refine ⟨.unit high :: .unit low :: ps, ?_, ?_⟩
      · simp only [List.cons_append, pieces?, hh, hl, hps]
        rfl
      · rw [assemble?, if_pos ⟨hh1, hh2⟩, if_pos ⟨hl1, hl2⟩, hcs]
        rfl

theorem string?_of_spells {written : List Char} {s : String} (h : Spells written s.toList)
    (rest : List Char) : string? (written ++ '"' :: rest) = some (some s, rest) := by
  obtain ⟨ps, hps, hcs⟩ := pieces?_of_spells h rest
  simp only [string?, hps, Option.map_some, hcs, String.ofList_toList]

theorem spells_escapeChar (c : Char) {written cs : List Char} (h : Spells written cs) :
    Spells (escapeChar c ++ written) (c :: cs) := by
  have hunit : ∀ n < 0x20,
      unit? '0' '0' (lowerHexDigit (n / 16)) (lowerHexDigit (n % 16)) = some n := by decide
  rw [escapeChar]
  split_ifs with hquote hslash hn hr ht hb hf hcontrol
  · subst hquote
    exact .short rfl h
  · subst hslash
    exact .short rfl h
  · subst hn
    exact .short rfl h
  · subst hr
    exact .short rfl h
  · subst ht
    exact .short rfl h
  · subst hb
    exact .short rfl h
  · subst hf
    exact .short rfl h
  · have := Spells.unit (hunit c.toNat hcontrol) (.inl (by omega)) h
    rwa [Char.ofNat_toNat] at this
  · exact .plain (by omega) hquote hslash h

theorem spells_escape (cs : List Char) : Spells (cs.flatMap escapeChar) cs := by
  induction cs with
  | nil => exact .nil
  | cons c cs ih => exact spells_escapeChar c ih

end Strings

section Writing

theorem blanks_nil : Blanks [] := fun _ hc => absurd hc List.not_mem_nil

theorem writesMember_compact (p : String × String) :
    WritesMember (writeText p.1 ++ ':' :: writeText p.2) p := by
  have := WritesMember.mk (spells_escape p.1.toList) blanks_nil blanks_nil
    (spells_escape p.2.toList)
  simpa [writeText] using this

theorem writesRest_compact (ps : List (String × String)) :
    WritesRest ((ps.flatMap fun p => ',' :: (writeText p.1 ++ ':' :: writeText p.2)) ++ ['\x7d'])
      ps := by
  induction ps with
  | nil => exact .close blanks_nil
  | cons p ps ih =>
      simpa using WritesRest.member blanks_nil blanks_nil (writesMember_compact p) ih

theorem intercalate_comma (item : List Char) (items : List (List Char)) :
    [','].intercalate (item :: items) = item ++ items.flatMap (',' :: ·) := by
  induction items generalizing item with
  | nil => simp
  | cons next items ih => simp [List.intercalate_cons_cons, ih]

theorem writesObject_compact (pairs : List (String × String)) :
    WritesObject (writePairs pairs) pairs := by
  cases pairs with
  | nil => exact .empty blanks_nil blanks_nil blanks_nil
  | cons p ps =>
      have := WritesObject.members blanks_nil blanks_nil (writesMember_compact p)
        (writesRest_compact ps) blanks_nil
      simpa [writePairs, intercalate_comma, List.flatMap_map] using this

end Writing

section Tokens

/-- A step that uses up at least one character is taken after any blanks. -/
theorem scan_step {opened : List Container} {place : Place} {blanks cs : List Char} {c : Char}
    {s : Step} (hb : Blanks blanks) (hc : isSpace c = false)
    (hs : step opened place (c :: cs) = some s) (hrest : s.rest.length ≤ cs.length) :
    scan opened place (blanks ++ c :: cs) = s.tokens ++ scan s.opened s.place s.rest := by
  have hdrop : (blanks ++ c :: cs).dropWhile isSpace = c :: cs := by
    rw [List.dropWhile_append_of_pos hb, List.dropWhile_cons_of_neg (by simp [hc])]
  have hlt : s.rest.length < (blanks ++ c :: cs).length := by
    rw [List.length_append, List.length_cons]
    omega
  rw [scan, hdrop]
  simp only [hs, if_pos hlt]

theorem scan_end {blanks : List Char} (h : Blanks blanks) : scan [] .after blanks = [] := by
  have hdrop : blanks.dropWhile isSpace = [] := by
    have : (blanks ++ []).dropWhile isSpace = [].dropWhile isSpace :=
      List.dropWhile_append_of_pos h
    rwa [List.append_nil] at this
  rw [scan, hdrop]
  rfl

/-- What stands for a member among the tokens. -/
def memberTokens (p : String × String) : List Token := [.key (some p.1), .text (some p.2)]

theorem step_key {opened : List Container} {place : Place}
    (hplace : place = .key ∨ place = .first .object) {key : List Char} {name : String}
    (h : Spells key name.toList) (rest : List Char) :
    step (.object :: opened) place ('"' :: (key ++ '"' :: rest)) =
      some ⟨[.key (some name)], .object :: opened, .colon, rest⟩ := by
  have hread : step (.object :: opened) place ('"' :: (key ++ '"' :: rest)) =
      stepKey (.object :: opened) ('"' :: (key ++ '"' :: rest)) := by
    rcases hplace with rfl | rfl
    · rfl
    · rfl
  rw [hread, stepKey, string?_of_spells h rest, Option.map_some]

theorem step_text (opened : List Container) {value : List Char} {characters : String}
    (h : Spells value characters.toList) (rest : List Char) :
    step opened .value ('"' :: (value ++ '"' :: rest)) =
      some ⟨[.text (some characters)], opened, .after, rest⟩ := by
  have hread : step opened .value ('"' :: (value ++ '"' :: rest)) =
      stepValue opened ('"' :: (value ++ '"' :: rest)) := by
    cases opened <;> rfl
  rw [hread, stepValue, scalar?, string?_of_spells h rest, Option.map_some, Option.map_some]
  all_goals simp

theorem scan_member {opened : List Container} {place : Place} {blanks written : List Char}
    {p : String × String} (hplace : place = .key ∨ place = .first .object) (hb : Blanks blanks)
    (h : WritesMember written p) (rest : List Char) :
    scan (.object :: opened) place (blanks ++ (written ++ rest)) =
      memberTokens p ++ scan (.object :: opened) .after rest := by
  obtain ⟨hkey, hbefore, hafter, hvalue⟩ := h
  rename_i key name before after value characters
  have hcolon : step (.object :: opened) .colon (':' :: (after ++ '"' :: (value ++ '"' :: rest))) =
      some ⟨[], .object :: opened, .value, after ++ '"' :: (value ++ '"' :: rest)⟩ := rfl
  simp only [List.cons_append, List.append_assoc, List.nil_append]
  rw [scan_step hb rfl (step_key hplace hkey _) (by simp; omega),
    scan_step hbefore rfl hcolon (Nat.le_refl _),
    scan_step hafter rfl (step_text _ hvalue rest) (by simp; omega)]
  rfl

theorem scan_rest {opened : List Container} {written : List Char} {ps : List (String × String)}
    (h : WritesRest written ps) (rest : List Char) :
    scan (.object :: opened) .after (written ++ rest) =
      ps.flatMap memberTokens ++ .closeObject :: scan opened .after rest := by
  induction h with
  | @close blanks hb =>
      have hstep : step (.object :: opened) .after ('\x7d' :: rest) =
          some ⟨[.closeObject], opened, .after, rest⟩ := rfl
      rw [List.append_assoc]
      exact scan_step hb rfl hstep (Nat.le_refl _)
  | @member before after written more p ps hb hafter hp _ ih =>
      have hstep : step (.object :: opened) .after (',' :: (after ++ (written ++ (more ++ rest)))) =
          some ⟨[], .object :: opened, .key, after ++ (written ++ (more ++ rest))⟩ := rfl
      simp only [List.append_assoc, List.cons_append]
      rw [scan_step hb rfl hstep (Nat.le_refl _), scan_member (.inl rfl) hafter hp, ih]
      simp only [List.nil_append, List.flatMap_cons, List.append_assoc]

theorem scan_object {written : List Char} {pairs : List (String × String)}
    (h : WritesObject written pairs) :
    scan [] .value written = .openObject :: (pairs.flatMap memberTokens ++ [.closeObject]) := by
  have hopen : ∀ rest : List Char, step [] .value ('\x7b' :: rest) =
      some ⟨[.openObject], [.object], .first .object, rest⟩ := fun _ => rfl
  cases h with
  | @empty before blanks after hbefore hb hafter =>
      have hclose : step [.object] (.first .object) ('\x7d' :: after) =
          some ⟨[.closeObject], [], .after, after⟩ := rfl
      rw [scan_step hbefore rfl (hopen _) (Nat.le_refl _), scan_step hb rfl hclose (Nat.le_refl _),
        scan_end hafter]
      rfl
  | @members before blanks written rest after p ps hbefore hb hp hrest hafter =>
      rw [scan_step hbefore rfl (hopen _) (Nat.le_refl _), scan_member (.inr rfl) hb hp,
        scan_rest hrest, scan_end hafter]
      simp only [List.singleton_append, List.flatMap_cons, List.append_assoc]

end Tokens

section Reading

def memberValue (p : String × String) : Option String × Value := (some p.1, .text (some p.2))

theorem foldl_step_members (pairs : List (String × String))
    (before : List (Option String × Value)) (outer : List Frame) (result : Option Value) (whole : Bool) :
    (pairs.flatMap memberTokens).foldl Progress.step ⟨.object before none :: outer, result, whole⟩ =
      ⟨.object ((pairs.map memberValue).reverse ++ before) none :: outer, result, whole⟩ := by
  induction pairs generalizing before with
  | nil => rfl
  | cons p pairs ih =>
      rw [List.flatMap_cons, List.foldl_append]
      refine (ih (memberValue p :: before)).trans ?_
      simp

theorem read_object {s : String} {pairs : List (String × String)}
    (h : WritesObject s.toList pairs) :
    read s = ⟨.object (pairs.map memberValue) true, true⟩ := by
  have hmembers := foldl_step_members pairs [] [] none true
  have hfold : (tokens s).foldl Progress.step .start =
      ⟨[], some (.object (pairs.map memberValue) true), true⟩ := by
    rw [tokens, scan_object h, List.foldl_cons, List.foldl_append]
    refine (congrArg (fun p => [Token.closeObject].foldl Progress.step p) hmembers).trans ?_
    rw [List.append_nil, List.foldl_cons, List.foldl_nil]
    simp only [Progress.step, Progress.close, Progress.add, Frame.close, List.reverse_reverse]
  rw [read, hfold]

theorem decodePairs_members (pairs : List (String × String)) :
    decodePairs (pairs.map memberValue) = .ok pairs := by
  induction pairs with
  | nil => rfl
  | cons p pairs ih =>
      rw [List.map_cons, memberValue, decodePairs, ih]
      rfl

/-- Every text of an object of strings is decoded to its members, recorded in order. -/
theorem ofJson_of_writesObject {s : String} {pairs : List (String × String)}
    (h : WritesObject s.toList pairs) : Answers.ofJson s = .ok (.ofList pairs) := by
  rw [Answers.ofJson, decodeWith, read_object h]
  simp only [decodeAnswers, decodePairs_members]
  rfl

end Reading

end LicenseChooser.Json
