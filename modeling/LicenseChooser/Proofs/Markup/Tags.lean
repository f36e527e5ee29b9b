import LicenseChooser.Proofs.Markup.Escaping
import LicenseChooser.Proofs.Markup.Nesting

/-!
Printed tags and CDATA sections, each cut off by the reader where the printer ended it, and the
attributes of a tag read back. Names and keys must be words, so that nothing in them ends a part of the
tag; values may be anything, because escaping leaves no quote in them.
-/

namespace LicenseChooser.Markup

open Text

/-- Neither a blank nor a character with a meaning in tags. -/
def isWordChar (c : Char) : Bool :=
  !isSpace c && !(['<', '>', '/', '=', '!', '?', '\'', '"', '&'].contains c)

def IsWord (s : String) : Prop := s.toList ≠ [] ∧ ∀ c ∈ s.toList, isWordChar c = true

instance (s : String) : Decidable (IsWord s) :=
  decidable_of_iff (s.toList ≠ [] ∧ s.toList.all isWordChar = true)
    (and_congr_right fun _ => List.all_eq_true)

/-- A class of characters that none of the blanks and of those signs belongs to. -/
theorem isWordChar_of_all {p : Char → Bool} {c : Char} (h : p c = true)
    (hnone : [' ', '\t', '\r', '\n', '<', '>', '/', '=', '!', '?', '\'', '"', '&'].all
      (fun d => !p d) = true) : isWordChar c = true := by
  have hc : c ∉ [' ', '\t', '\r', '\n', '<', '>', '/', '=', '!', '?', '\'', '"', '&'] := by
    intro hmem
    have hnot : (!p c) = true := List.all_eq_true.1 hnone c hmem
    rw [h] at hnot
    exact Bool.false_ne_true hnot
  simpa [isWordChar, isSpace, and_assoc] using hc

theorem isSpace_of_isWordChar {c : Char} (h : isWordChar c = true) : isSpace c = false := by
  simp only [isWordChar, Bool.and_eq_true, Bool.not_eq_true'] at h
  exact h.1

theorem isWordChar_plain {c : Char} (h : isWordChar c = true) :
    c ≠ '/' ∧ c ≠ '!' ∧ c ≠ '?' ∧ c ≠ '=' := by
  simp only [isWordChar, Bool.and_eq_true, Bool.not_eq_true', List.contains_eq_mem,
    decide_eq_false_iff_not, List.mem_cons, List.not_mem_nil, or_false, not_or] at h
  simp only [h, ne_eq, not_false_eq_true, and_self]

/-- Nothing in a word ends a tag or begins a quoted value. -/
theorem IsWord.unquoted {s : String} (h : IsWord s) :
    ∀ c ∈ s.toList, c ≠ '>' ∧ c ≠ '\'' ∧ c ≠ '"' := by
  intro c hc
  have hword := h.2 c hc
  simp only [isWordChar, Bool.and_eq_true, Bool.not_eq_true', List.contains_eq_mem,
    decide_eq_false_iff_not, List.mem_cons, List.not_mem_nil, or_false, not_or] at hword
  simp only [hword, ne_eq, not_false_eq_true, and_self]

theorem IsWord.not_isSpace {s : String} (h : IsWord s) :
    ∀ c ∈ s.toList, (!isSpace c) = true := by
  intro c hc
  rw [isSpace_of_isWordChar (h.2 c hc)]
  rfl

theorem shownName_toList {s : String} (h : ':' ∉ s.toList) : shownName s.toList = s := by
  have hpos : ∀ c ∈ s.toList, (c != ':') = true := fun c hc =>
    bne_iff_ne.2 fun he => h (he ▸ hc)
  have hrun := run_append hpos [] (by simp)
  rw [List.append_nil] at hrun
  rw [shownName, localName, hrun.2, String.ofList_toList]

namespace Source

/-- What stands between the brackets of a start tag. -/
def tagText (name : String) (attributes : List (String × String)) : List Char :=
  name.toList ++ printAttributes attributes

theorem tagText_nil (name : String) : tagText name [] = name.toList := List.append_nil _

end Source

theorem splitTag_plain {w : List Char} (h : ∀ c ∈ w, c ≠ '>' ∧ c ≠ '\'' ∧ c ≠ '"')
    (rest : List Char) :
    splitTag none (w ++ rest) = (splitTag none rest).map fun p => (w ++ p.1, p.2) := by
  induction w with
  | nil => simp
  | cons c w ih =>
      obtain ⟨hc, hw⟩ := List.forall_mem_cons.1 h
      simp [splitTag, hc, ih hw, Function.comp_def]

theorem splitTag_quoted {v : List Char} (h : ∀ c ∈ v, c ≠ '"') (rest : List Char) :
    splitTag (some '"') (v ++ '"' :: rest) =
      (splitTag none rest).map fun p => (v ++ '"' :: p.1, p.2) := by
  induction v with
  | nil => simp [splitTag]
  | cons c v ih =>
      obtain ⟨hc, hv⟩ := List.forall_mem_cons.1 h
      simp [splitTag, hc, ih hv, Function.comp_def]

theorem splitTag_attribute {a : String × String} (h : IsWord a.1) (rest : List Char) :
    splitTag none (Source.printAttribute a ++ rest) =
      (splitTag none rest).map fun p => (Source.printAttribute a ++ p.1, p.2) := by
  have hkey : ∀ c ∈ ' ' :: (a.1.toList ++ ['=']), c ≠ '>' ∧ c ≠ '\'' ∧ c ≠ '"' := by
    intro c hc
    simp only [List.mem_cons, List.mem_append, List.not_mem_nil, or_false] at hc
    rcases hc with rfl | hc | rfl
    · decide
    · exact h.unquoted c hc
    · decide
  have hvalue : ∀ c ∈ escape a.2.toList, c ≠ '"' := fun c hc => (plain_of_mem_escape hc).2.2.2
  have hopen : ∀ cs, splitTag none ('"' :: cs) =
      (splitTag (some '"') cs).map fun p => ('"' :: p.1, p.2) := fun _ => rfl
  have hprint : ∀ cs, Source.printAttribute a ++ cs =
      (' ' :: (a.1.toList ++ ['='])) ++ '"' :: (escape a.2.toList ++ '"' :: cs) := by
    intro cs
    simp [Source.printAttribute]
  simp only [hprint, splitTag_plain hkey, hopen, splitTag_quoted hvalue, Option.map_map]
  rfl

theorem splitTag_attributes {attributes : List (String × String)}
    (h : ∀ a ∈ attributes, IsWord a.1) (rest : List Char) :
    splitTag none (Source.printAttributes attributes ++ rest) =
      (splitTag none rest).map fun p => (Source.printAttributes attributes ++ p.1, p.2) := by
  induction attributes with
  | nil => simp [Source.printAttributes]
  | cons a attributes ih =>
      obtain ⟨ha, hrest⟩ := List.forall_mem_cons.1 h
      have hcons : Source.printAttributes (a :: attributes) =
          Source.printAttribute a ++ Source.printAttributes attributes := rfl
      simp only [hcons, List.append_assoc, splitTag_attribute ha, ih hrest, Option.map_map]
      rfl

theorem splitTag_tagText {name : String} {attributes : List (String × String)} (hn : IsWord name)
    (ha : ∀ a ∈ attributes, IsWord a.1) (rest : List Char) :
    splitTag none (Source.tagText name attributes ++ rest) =
      (splitTag none rest).map fun p => (Source.tagText name attributes ++ p.1, p.2) := by
  simp only [Source.tagText, List.append_assoc, splitTag_plain hn.unquoted, splitTag_attributes ha,
    Option.map_map]
  rfl

/-- What begins after a `<` when it is neither a declaration nor an instruction. -/
theorem markup_tag {cs : List Char} (hd : cs.head? ≠ some '!') (hi : cs.head? ≠ some '?') :
    markup cs =
      match splitTag none cs with
      | some ('/' :: raw, after) => .ok (.close raw, after)
      | some (raw, after) =>
          if raw.getLast? = some '/' then .ok (.single raw.dropLast, after)
          else .ok (.open raw, after)
      | none => .error .openTag := by
  unfold markup
  split <;> first | rfl | simp at hd hi

theorem head_tagText {name : String} (h : IsWord name) (attributes : List (String × String)) :
    ∃ c cs, isWordChar c = true ∧ Source.tagText name attributes = c :: cs := by
  obtain ⟨hne, hchars⟩ := h
  cases hn : name.toList with
  | nil => exact absurd hn hne
  | cons c cs =>
      exact ⟨c, cs ++ Source.printAttributes attributes, hchars c (by simp [hn]),
        by simp [Source.tagText, hn]⟩

theorem getLast?_tagText {name : String} (h : IsWord name) (attributes : List (String × String)) :
    (Source.tagText name attributes).getLast? ≠ some '/' := by
  rcases List.eq_nil_or_concat attributes with rfl | ⟨before, a, rfl⟩
  · intro hl
    have := List.mem_of_getLast? hl
    simp only [Source.tagText, Source.printAttributes, List.flatMap_nil, List.append_nil] at this
    exact absurd rfl (isWordChar_plain (h.2 _ this)).1
  · have hlast : Source.tagText name (before ++ [a]) =
        (name.toList ++ Source.printAttributes before ++
          (' ' :: (a.1.toList ++ '=' :: '"' :: escape a.2.toList))) ++ ['"'] := by
      simp [Source.tagText, Source.printAttributes, Source.printAttribute]
    rw [List.concat_eq_append, hlast, List.getLast?_concat]
    decide

section Tags

variable {name : String} {attributes : List (String × String)}
  (hn : IsWord name) (ha : ∀ a ∈ attributes, IsWord a.1)
include hn ha

theorem markup_open (rest : List Char) :
    markup (Source.tagText name attributes ++ '>' :: rest) =
      .ok (.open (Source.tagText name attributes), rest) := by
  obtain ⟨c, cs, hc, hcs⟩ := head_tagText hn attributes
  have hsplit : splitTag none (Source.tagText name attributes ++ '>' :: rest) =
      some (Source.tagText name attributes, rest) := by
    simp [splitTag_tagText hn ha, splitTag]
  have hlast := getLast?_tagText hn attributes
  have hplain := isWordChar_plain hc
  rw [markup_tag (by simp [hcs, hplain]) (by simp [hcs, hplain]), hsplit]
  rw [hcs] at hlast ⊢
  split
  · simp_all
  · rename_i h
    simp only [Option.some.injEq, Prod.mk.injEq] at h
    obtain ⟨rfl, rfl⟩ := h
    rw [if_neg hlast]
  · simp_all

theorem markup_single (rest : List Char) :
    markup (Source.tagText name attributes ++ '/' :: '>' :: rest) =
      .ok (.single (Source.tagText name attributes), rest) := by
  obtain ⟨c, cs, hc, hcs⟩ := head_tagText hn attributes
  have hsplit : splitTag none (Source.tagText name attributes ++ '/' :: '>' :: rest) =
      some (Source.tagText name attributes ++ ['/'], rest) := by
    simp [splitTag_tagText hn ha, splitTag]
  have hplain := isWordChar_plain hc
  rw [markup_tag (by simp [hcs, hplain]) (by simp [hcs, hplain]), hsplit]
  rw [hcs]
  split
  · simp_all
  · rename_i h
    simp only [Option.some.injEq, Prod.mk.injEq] at h
    obtain ⟨rfl, rfl⟩ := h
    rw [if_pos (by rw [List.getLast?_concat]), List.dropLast_concat]
  · simp_all

end Tags

theorem markup_close {name : String} (h : IsWord name) (rest : List Char) :
    markup ('/' :: (name.toList ++ '>' :: rest)) = .ok (.close name.toList, rest) := by
  have hplain : ∀ c ∈ '/' :: name.toList, c ≠ '>' ∧ c ≠ '\'' ∧ c ≠ '"' := by
    intro c hc
    rcases List.mem_cons.1 hc with rfl | hc
    · decide
    · exact h.unquoted c hc
  have hsplit : splitTag none ('/' :: (name.toList ++ '>' :: rest)) =
      some ('/' :: name.toList, rest) := by
    rw [← List.cons_append, splitTag_plain hplain]
    simp [splitTag]
  rw [markup_tag (by simp) (by simp), hsplit]
  rfl

/-- A CDATA section ends at its own end, also when brackets stand before that. -/
theorem breakOn_cdata {s : List Char} (h : ¬ [']', ']', '>'] <:+: s) (rest : List Char) :
    breakOn [']', ']', '>'] (s ++ ']' :: ']' :: '>' :: rest) = some (s, rest) :=
  breakOn_delimited (by decide : '>' ∉ [']', ']']) h rest

theorem markup_cdata {s : List Char} (h : ¬ [']', ']', '>'] <:+: s) (rest : List Char) :
    markup ('!' :: '[' :: 'C' :: 'D' :: 'A' :: 'T' :: 'A' :: '[' ::
      (s ++ ']' :: ']' :: '>' :: rest)) = .ok (.cdata s, rest) := by
  simp [markup, breakOn_cdata h]

theorem readAttributes_of_raw {seen : List (List Char × Nat)} {position : Nat} {cs tail : List Char}
    {first : Char} {a : RawAttribute} (hd : cs.dropWhile isSpace = first :: tail)
    (ha : rawAttribute seen (position + byteLength (cs.takeWhile isSpace)) first tail = .ok a)
    {value : List Char} (hv : unescape a.value = .ok value) :
    readAttributes seen position cs =
      (readAttributes ((a.key, a.keyStart) :: seen) a.restStart a.rest).map
        ((shownName a.key, String.ofList value) :: ·) := by
  rw [readAttributes_of_head hd, ha]
  simp only [hv]

theorem rawAttribute_print {key : List Char} {first : Char} {tail : List Char}
    (hk : key = first :: tail) (hkey : ∀ c ∈ key, isWordChar c = true)
    {seen : List (List Char × Nat)} (hseen : seen.lookup key = none) (position : Nat)
    (v : List Char) (hv : ∀ c ∈ v, c ≠ '"') (rest : List Char) :
    ∃ stop, rawAttribute seen position first (tail ++ '=' :: '"' :: (v ++ '"' :: rest)) =
      .ok ⟨key, position, v, rest, stop⟩ := by
  have htail : ∀ c ∈ tail, (c != '=' && !isSpace c) = true := by
    intro c hc
    have hword := hkey c (by simp [hk, hc])
    simp [isWordChar_plain hword, isSpace_of_isWordChar hword]
  obtain ⟨htake, hdrop⟩ := run_append htail ('=' :: '"' :: (v ++ '"' :: rest)) (by simp)
  have hequals : ∀ p cs, afterEquals p ('=' :: cs) = .ok (cs, p + byteLength [] + 1) :=
    fun _ _ => rfl
  have hvalue : ∀ p, quotedValue p ('"' :: (v ++ '"' :: rest)) =
      .ok (v, rest, p + byteLength [] + byteLength v + 2) := by
    intro p
    have hspace : isSpace '"' = false := rfl
    simp [quotedValue, List.dropWhile, List.takeWhile, hspace, breakOn_singleton hv]
  simp only [rawAttribute, htake, hdrop, ← hk, hequals, hseen, hvalue, bind, Except.bind]
  exact ⟨_, rfl⟩

theorem readAttributes_printAttributes {attributes : List (String × String)}
    (ha : ∀ a ∈ attributes, IsWord a.1) (hd : (attributes.map (·.1)).Nodup)
    {seen : List (List Char × Nat)} (hseen : ∀ a ∈ attributes, seen.lookup a.1.toList = none)
    (position : Nat) :
    readAttributes seen position (Source.printAttributes attributes) =
      .ok (attributes.map fun a => (shownName a.1.toList, a.2)) := by
  induction attributes generalizing seen position with
  | nil =>
      rw [readAttributes]
      rfl
  | cons a attributes ih =>
      obtain ⟨hword, ha⟩ := List.forall_mem_cons.1 ha
      obtain ⟨hnew, hseen⟩ := List.forall_mem_cons.1 hseen
      simp only [List.map_cons, List.nodup_cons] at hd
      cases hk : a.1.toList with
      | nil => exact absurd hk hword.1
      | cons first tail =>
          have hfirst : isSpace first = false :=
            isSpace_of_isWordChar (hword.2 first (by simp [hk]))
          have hprint : Source.printAttributes (a :: attributes) = ' ' :: first ::
              (tail ++ '=' :: '"' :: (escape a.2.toList ++ '"' ::
                Source.printAttributes attributes)) := by
            simp [Source.printAttributes, Source.printAttribute, hk]
          have hspace : isSpace ' ' = true := rfl
          have htake : (Source.printAttributes (a :: attributes)).takeWhile isSpace = [' '] := by
            simp [hprint, List.takeWhile, hspace, hfirst]
          have hdrop : (Source.printAttributes (a :: attributes)).dropWhile isSpace = first ::
              (tail ++ '=' :: '"' :: (escape a.2.toList ++ '"' ::
                Source.printAttributes attributes)) := by
            simp [hprint, List.dropWhile, hspace, hfirst]
          obtain ⟨stop, hraw⟩ := rawAttribute_print hk hword.2 hnew (position + byteLength [' '])
            (escape a.2.toList) (fun c hc => (plain_of_mem_escape hc).2.2.2)
            (Source.printAttributes attributes)
          have hothers : ∀ b ∈ attributes, List.lookup b.1.toList
              ((a.1.toList, position + byteLength [' ']) :: seen) = none := by
            intro b hb
            have hne : b.1.toList ≠ a.1.toList := fun he =>
              hd.1 (List.mem_map.2 ⟨b, hb, String.toList_inj.1 he⟩)
            rw [List.lookup_cons, beq_false_of_ne hne]
            exact hseen b hb
          rw [readAttributes_of_raw hdrop (by rw [htake]; exact hraw) (unescape_escape _),
            ih ha hd.2 hothers]
          simp only [Except.map, List.map_cons, String.ofList_toList]

theorem tagName_tagText {name : String} (h : IsWord name) (attributes : List (String × String)) :
    tagName (Source.tagText name attributes) = name.toList ∧
      (Source.tagText name attributes).dropWhile (!isSpace ·) =
        Source.printAttributes attributes := by
  apply run_append h.not_isSpace (Source.printAttributes attributes)
  cases attributes with
  | nil => simp [Source.printAttributes]
  | cons a attributes => simp [Source.printAttributes, Source.printAttribute, isSpace]

theorem tagAttributes_tagText {name : String} (hn : IsWord name)
    {attributes : List (String × String)} (ha : ∀ a ∈ attributes, IsWord a.1)
    (hd : (attributes.map (·.1)).Nodup) :
    tagAttributes (Source.tagText name attributes) =
      .ok (attributes.map fun a => (shownName a.1.toList, a.2)) := by
  rw [tagAttributes, (tagName_tagText hn attributes).2]
  exact readAttributes_printAttributes ha hd (fun _ _ => rfl) _

theorem endName_word {name : String} (h : IsWord name) : endName name.toList = name.toList := by
  obtain ⟨before, last, hlast⟩ := List.eq_nil_or_concat name.toList |>.resolve_left h.1
  have hspace : isSpace last = false := isSpace_of_isWordChar (h.2 last (by simp [hlast]))
  simp [endName, hlast, hspace]

theorem startTag_tagText {name : String} (hn : IsWord name) {attributes : List (String × String)}
    (ha : ∀ a ∈ attributes, IsWord a.1) (hd : (attributes.map (·.1)).Nodup) :
    StartTag (Source.tagText name attributes) name.toList
      (.ok (attributes.map fun a => (shownName a.1.toList, a.2))) :=
  startTag_iff.2 ⟨(tagName_tagText hn attributes).1, tagAttributes_tagText hn ha hd⟩

theorem endTag_word {name : String} (h : IsWord name) : EndTag name.toList name.toList :=
  endTag_iff.2 (endName_word h)

end LicenseChooser.Markup
