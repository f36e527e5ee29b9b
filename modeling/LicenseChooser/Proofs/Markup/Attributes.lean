import LicenseChooser.Markup.Event
import LicenseChooser.Proofs.Markup.References

/-!
What the inside of a tag says, without the reader. A start tag is a full name and attributes, an end
tag a name and blanks. `Attributes` takes attributes from the left: a key with its `=`, a value in
quotes, what its references stand for. The first part that is missing, is there a second time or
stands for nothing decides, and the reader gives exactly that.
-/

namespace LicenseChooser.Markup

open Text

/-- The name under which the element of a tag is stored. -/
def shownName (tag : List Char) : String := String.ofList (localName tag)

/-- A name without its prefix, which ends at the first colon. -/
inductive Unprefixed : List Char → List Char → Prop
  | plain {name} : ':' ∉ name → Unprefixed name name
  | prefixed {space name} : ':' ∉ space → Unprefixed (space ++ ':' :: name) name

theorem unprefixed_iff {full name : List Char} : Unprefixed full name ↔ localName full = name := by
  have hrun : ∀ cs : List Char, ':' ∉ cs → ∀ c ∈ cs, (c != ':') = true := fun cs h c hc =>
    bne_iff_ne.2 fun he => h (he ▸ hc)
  constructor
  · intro h
    cases h with
    | plain hname =>
        have hdrop := (run_append (hrun _ hname) [] (by simp)).2
        rw [List.append_nil] at hdrop
        rw [localName, hdrop]
    | @prefixed space name hspace =>
        have hdrop := (run_append (hrun _ hspace) (':' :: name) (by simp)).2
        rw [localName, hdrop]
  · rintro rfl
    obtain ⟨space, rest, rfl, hspace, hstop⟩ := exists_run (· != ':') full
    have hfree : ':' ∉ space := fun hmem => by simpa using hspace ':' hmem
    rw [localName, (run_append hspace rest hstop).2]
    cases rest with
    | nil => simpa using Unprefixed.plain hfree
    | cons c rest =>
        obtain rfl : c = ':' := by simpa using hstop c rfl
        exact .prefixed hfree

def IsGap (cs : List Char) : Prop := ∀ c ∈ cs, isSpace c = true

/-- A key reaches to a `=` or a blank; only its first character may be a `=` itself. -/
def IsKey (cs : List Char) : Prop :=
  ∃ first more, cs = first :: more ∧ isSpace first = false ∧
    ∀ c ∈ more, (c != '=' && !isSpace c) = true

def IsQuote (c : Char) : Prop := c = '"' ∨ c = '\''

/-- The text at byte `position` has, behind blanks, a key at byte `start` and its `=`; the rest
follows at byte `stop`. -/
inductive Keyed (position : Nat) : List Char → Nat → List Char → Nat → List Char → Prop
  | mk {gap key space rest} :
      IsGap gap → IsKey key → IsGap space →
        Keyed position (gap ++ (key ++ (space ++ '=' :: rest))) (position + byteLength gap) key
          (position + byteLength (gap ++ (key ++ (space ++ ['='])))) rest

/-- The text at byte `position` has, behind blanks, a key, and no `=` at byte `stop`, where one must
stand. -/
inductive Unkeyed (position : Nat) : List Char → Nat → Prop
  | mk {gap key space rest} :
      IsGap gap → IsKey key → IsGap space → (space = [] → rest = []) →
        (∀ c ∈ rest.head?, c ≠ '=' ∧ isSpace c = false) →
        Unkeyed position (gap ++ (key ++ (space ++ rest)))
          (position + byteLength (gap ++ (key ++ space)))

/-- What follows the `=` of an attribute at byte `position`: the value between its quotes, and what
stands behind these, at its byte. -/
inductive Quotes (position : Nat) :
    List Char → Except AttributeError (List Char × List Char × Nat) → Prop
  | missing {gap} :
      IsGap gap → Quotes position gap (.error (.missingValue (position + byteLength gap)))
  | unquoted {gap c rest} :
      IsGap gap → isSpace c = false → ¬ IsQuote c →
        Quotes position (gap ++ c :: rest) (.error (.unquotedValue (position + byteLength gap)))
  | unclosed {gap quote rest} :
      IsGap gap → IsQuote quote → quote ∉ rest →
        Quotes position (gap ++ quote :: rest)
          (.error (.openValue (position + byteLength (gap ++ quote :: rest)) quote))
  | value {gap quote value rest} :
      IsGap gap → IsQuote quote → quote ∉ value →
        Quotes position (gap ++ quote :: (value ++ quote :: rest))
          (.ok (value, rest, position + byteLength (gap ++ quote :: (value ++ [quote]))))

/-- The attributes in the rest of a tag, which begins at byte `position`, or what is wrong with the
first that is none. Keys are compared in full with those `seen` before, which are kept with the bytes
at which they begin. -/
inductive Attributes :
    List (List Char × Nat) → Nat → List Char → Except MarkupError (List (String × String)) → Prop
  | nil {seen position gap} : IsGap gap → Attributes seen position gap (.ok [])
  | missingEquals {seen position cs stop} :
      Unkeyed position cs stop →
        Attributes seen position cs (.error (.attribute (.missingEquals stop)))
  | duplicated {seen position cs start key stop rest previous} :
      Keyed position cs start key stop rest → seen.lookup key = some previous →
        Attributes seen position cs (.error (.attribute (.duplicated start previous)))
  | badValue {seen position cs start key stop rest e} :
      Keyed position cs start key stop rest → seen.lookup key = none →
        Quotes stop rest (.error e) → Attributes seen position cs (.error (.attribute e))
  | badReference {seen position cs start key stop rest value after next e} :
      Keyed position cs start key stop rest → seen.lookup key = none →
        Quotes stop rest (.ok (value, after, next)) → Decodes 0 value (.error e) →
        Attributes seen position cs (.error (.entity e))
  | cons {seen position cs start key stop rest value after next name text r} :
      Keyed position cs start key stop rest → seen.lookup key = none →
        Quotes stop rest (.ok (value, after, next)) → Decodes 0 value (.ok text) →
        Unprefixed key name → Attributes ((key, start) :: seen) next after r →
        Attributes seen position cs (r.map ((String.ofList name, String.ofList text) :: ·))

/-- The inside of a start tag has the full name `tag`, and these attributes or this fault. -/
inductive StartTag : List Char → List Char → Except MarkupError (List (String × String)) → Prop
  | mk {tag rest r} :
      (∀ c ∈ tag, isSpace c = false) → (∀ c ∈ rest.head?, isSpace c = true) →
        Attributes [] (byteLength tag) rest r → StartTag (tag ++ rest) tag r

/-- What follows the slash of an end tag is this name and blanks. -/
inductive EndTag : List Char → List Char → Prop
  | named {before last gap} :
      isSpace last = false → IsGap gap → EndTag (before ++ last :: gap) (before ++ [last])
  | blank {gap} : IsGap gap → EndTag gap gap

/-! ### The parts of an attribute -/

theorem gap_append {gap : List Char} (h : IsGap gap) {c : Char} (hc : isSpace c = false)
    (rest : List Char) :
    (gap ++ c :: rest).takeWhile isSpace = gap ∧ (gap ++ c :: rest).dropWhile isSpace = c :: rest :=
  run_append h (c :: rest) (by simpa using hc)

theorem gap_only {gap : List Char} (h : IsGap gap) :
    gap.takeWhile isSpace = gap ∧ gap.dropWhile isSpace = [] := by
  have hrun := run_append h [] (by simp)
  rwa [List.append_nil] at hrun

theorem isSpace_of_isQuote {c : Char} (h : IsQuote c) : isSpace c = false ∧ c.utf8Size = 1 := by
  rcases h with rfl | rfl <;> exact ⟨rfl, rfl⟩

namespace Quotes

theorem sound {position : Nat} {cs : List Char}
    {r : Except AttributeError (List Char × List Char × Nat)} (h : Quotes position cs r) :
    quotedValue position cs = r := by
  cases h with
  | missing hgap =>
      obtain ⟨htake, hdrop⟩ := gap_only hgap
      rw [quotedValue, htake, hdrop]
  | unquoted hgap hc hquote =>
      obtain ⟨htake, hdrop⟩ := gap_append hgap hc _
      rw [quotedValue, htake, hdrop]
      exact if_neg hquote
  | @unclosed gap quote rest hgap hquote hfree =>
      obtain ⟨htake, hdrop⟩ := gap_append hgap (isSpace_of_isQuote hquote).1 rest
      simp only [quotedValue, htake, hdrop, breakOn_eq_none hfree, byteLength_append, Nat.add_assoc]
      exact if_pos hquote
  | @value gap quote value rest hgap hquote hfree =>
      obtain ⟨hspace, hsize⟩ := isSpace_of_isQuote hquote
      obtain ⟨htake, hdrop⟩ := gap_append hgap hspace (value ++ quote :: rest)
      have hcut : breakOn [quote] (value ++ quote :: rest) = some (value, rest) :=
        breakOn_singleton (fun _ hc => ne_of_mem_of_not_mem hc hfree) rest
      have hlength : byteLength (gap ++ quote :: (value ++ [quote])) =
          byteLength gap + byteLength value + 2 := by
        simp only [byteLength_append, byteLength, hsize]
        omega
      simp only [quotedValue, htake, hdrop, hcut, hlength, Nat.add_assoc]
      exact if_pos hquote

theorem total (position : Nat) (cs : List Char) : ∃ r, Quotes position cs r := by
  obtain ⟨gap, rest, rfl, hgap, hstop⟩ := exists_run isSpace cs
  cases rest with
  | nil => exact ⟨_, by simpa using Quotes.missing hgap⟩
  | cons quote rest =>
      by_cases hquote : IsQuote quote
      · by_cases hfree : quote ∈ rest
        · obtain ⟨value, after, rfl, hvalue⟩ := List.eq_append_cons_of_mem hfree
          exact ⟨_, .value hgap hquote hvalue⟩
        · exact ⟨_, .unclosed hgap hquote hfree⟩
      · exact ⟨_, .unquoted hgap (hstop quote rfl) hquote⟩

theorem length_le {position stop : Nat} {cs value after : List Char}
    (h : Quotes position cs (.ok (value, after, stop))) : after.length ≤ cs.length :=
  length_of_quotedValue h.sound

end Quotes

theorem quotes_iff {position : Nat} {cs : List Char}
    {r : Except AttributeError (List Char × List Char × Nat)} :
    Quotes position cs r ↔ quotedValue position cs = r :=
  iff_eq_of_exists Quotes.sound (Quotes.total position cs)

theorem head?_behind_key {space : List Char} (hspace : IsGap space) {rest : List Char}
    (hrest : space = [] → ∀ c ∈ rest.head?, c = '=') :
    ∀ c ∈ (space ++ rest).head?, (c != '=' && !isSpace c) = false := by
  intro c hc
  cases space with
  | nil => simp [hrest rfl c hc]
  | cons d space =>
      obtain rfl : d = c := by simpa using hc
      simp [hspace d (by simp)]

/-- The reader splits a key off as the relation does. -/
theorem Keyed.split {position start stop : Nat} {cs key rest : List Char}
    (h : Keyed position cs start key stop rest) :
    ∃ first tail, cs.dropWhile isSpace = first :: tail ∧
      position + byteLength (cs.takeWhile isSpace) = start ∧
      first :: tail.takeWhile (fun c => c != '=' && !isSpace c) = key ∧
      afterEquals (start + byteLength key) (tail.dropWhile fun c => c != '=' && !isSpace c) =
        .ok (rest, stop) := by
  cases h with
  | @mk gap key space rest hgap hkey hspace =>
      obtain ⟨first, more, rfl, hfirst, hmore⟩ := hkey
      obtain ⟨htake, hdrop⟩ := gap_append hgap hfirst (more ++ (space ++ '=' :: rest))
      have hend : ∀ c ∈ (space ++ '=' :: rest).head?, (c != '=' && !isSpace c) = false :=
        head?_behind_key hspace fun _ c hc => (Option.some.inj hc).symm
      obtain ⟨hkeyTake, hkeyDrop⟩ := run_append hmore (space ++ '=' :: rest) hend
      obtain ⟨hspaceTake, hspaceDrop⟩ := gap_append hspace (by decide : isSpace '=' = false) rest
      refine ⟨first, more ++ (space ++ '=' :: rest), hdrop, by rw [List.cons_append, htake],
        by rw [hkeyTake], ?_⟩
      have hequals : '='.utf8Size = 1 := rfl
      simp only [afterEquals, hkeyDrop, hspaceTake, hspaceDrop, byteLength_append, byteLength,
        hequals, Nat.add_assoc]

theorem readAttributes_of_gap (seen : List (List Char × Nat)) (position : Nat) {gap : List Char}
    (h : IsGap gap) : readAttributes seen position gap = .ok [] := by
  rw [readAttributes]
  split
  · rfl
  · rename_i heq
    rw [(gap_only h).2] at heq
    cases heq

theorem readAttributes_of_head {seen : List (List Char × Nat)} {position : Nat}
    {cs tail : List Char} {first : Char} (hd : cs.dropWhile isSpace = first :: tail) :
    readAttributes seen position cs =
      match rawAttribute seen (position + byteLength (cs.takeWhile isSpace)) first tail with
      | .error e => .error (.attribute e)
      | .ok a =>
          match unescape a.value with
          | .error e => .error (.entity e)
          | .ok value => (readAttributes ((a.key, a.keyStart) :: seen) a.restStart a.rest).map
              ((shownName a.key, String.ofList value) :: ·) := by
  rw [readAttributes]
  split
  · rename_i heq
    rw [hd] at heq
    cases heq
  · rename_i first' tail' heq
    rw [hd, List.cons.injEq] at heq
    obtain ⟨rfl, rfl⟩ := heq
    split
    · rename_i e he
      rw [he]
    · rename_i a he
      rw [he]
      cases hv : unescape a.value with
      | error e => simp only [hv]; rfl
      | ok value =>
          simp only [hv]
          cases readAttributes ((a.key, a.keyStart) :: seen) a.restStart a.rest <;> rfl

theorem readAttributes_of_keyed {seen : List (List Char × Nat)} {position start stop : Nat}
    {cs key rest : List Char} (h : Keyed position cs start key stop rest) :
    readAttributes seen position cs =
      match seen.lookup key with
      | some previous => .error (.attribute (.duplicated start previous))
      | none =>
          match quotedValue stop rest with
          | .error e => .error (.attribute e)
          | .ok (value, after, next) =>
              match unescape value with
              | .error e => .error (.entity e)
              | .ok text => (readAttributes ((key, start) :: seen) next after).map
                  ((shownName key, String.ofList text) :: ·) := by
  obtain ⟨first, tail, hdrop, hstart, hkey, hequals⟩ := h.split
  rw [readAttributes_of_head hdrop, hstart]
  simp only [rawAttribute, hkey, hequals, bind, Except.bind]
  cases seen.lookup key with
  | some previous => rfl
  | none => cases quotedValue stop rest <;> rfl

theorem readAttributes_of_unkeyed (seen : List (List Char × Nat)) {position stop : Nat}
    {cs : List Char} (h : Unkeyed position cs stop) :
    readAttributes seen position cs = .error (.attribute (.missingEquals stop)) := by
  obtain @⟨gap, key, space, rest, hgap, hkey, hspace, hends, hrest⟩ := h
  obtain ⟨first, more, rfl, hfirst, hmore⟩ := hkey
  obtain ⟨htake, hdrop⟩ := gap_append hgap hfirst (more ++ (space ++ rest))
  have hend : ∀ c ∈ (space ++ rest).head?, (c != '=' && !isSpace c) = false :=
    head?_behind_key hspace fun hnone c hc => by simp [hends hnone] at hc
  obtain ⟨hkeyTake, hkeyDrop⟩ := run_append hmore (space ++ rest) hend
  obtain ⟨hspaceTake, hspaceDrop⟩ := run_append hspace rest fun c hc => (hrest c hc).2
  have hequals : afterEquals (position + byteLength gap + byteLength (first :: more))
      (space ++ rest) =
        .error (.missingEquals (position + byteLength (gap ++ (first :: more ++ space)))) := by
    rw [afterEquals, hspaceTake, hspaceDrop]
    split
    · exact absurd rfl (hrest '=' rfl).1
    · simp only [byteLength_append, byteLength, List.cons_append, Nat.add_assoc]
  rw [List.cons_append, readAttributes_of_head hdrop, htake]
  simp only [rawAttribute, hkeyTake, hkeyDrop, hequals, bind, Except.bind]

theorem Keyed.length_lt {position start stop : Nat} {cs key rest : List Char}
    (h : Keyed position cs start key stop rest) : rest.length < cs.length := by
  cases h with
  | mk _ _ _ =>
      simp only [List.length_append, List.length_cons]
      omega

/-- A text is blank, or it begins with a key. -/
theorem gap_or_keyed (position : Nat) (cs : List Char) :
    IsGap cs ∨ (∃ stop, Unkeyed position cs stop) ∨
      ∃ start key stop rest, Keyed position cs start key stop rest := by
  obtain ⟨gap, behind, rfl, hgap, hfirst⟩ := exists_run isSpace cs
  cases behind with
  | nil => exact .inl (by rwa [List.append_nil])
  | cons first behind =>
      obtain ⟨more, behind, rfl, hmore, hend⟩ :=
        exists_run (fun c => c != '=' && !isSpace c) behind
      obtain ⟨space, rest, rfl, hspace, hrest⟩ := exists_run isSpace behind
      have hkey : IsKey (first :: more) := ⟨first, more, rfl, hfirst first rfl, hmore⟩
      rw [← List.cons_append]
      by_cases hequals : rest.head? = some '='
      · obtain ⟨rest, rfl⟩ := List.head?_eq_some_iff.1 hequals
        exact .inr (.inr ⟨_, _, _, _, .mk hgap hkey hspace⟩)
      · refine .inr (.inl ⟨_, .mk hgap hkey hspace ?_ fun c hc => ⟨?_, hrest c hc⟩⟩)
        · rintro rfl
          cases rest with
          | nil => rfl
          | cons c rest => simp_all
        · rintro rfl
          exact hequals hc

namespace Attributes

theorem sound {seen : List (List Char × Nat)} {position : Nat} {cs : List Char}
    {r : Except MarkupError (List (String × String))} (h : Attributes seen position cs r) :
    readAttributes seen position cs = r := by
  induction h with
  | nil hgap => exact readAttributes_of_gap _ _ hgap
  | missingEquals hunkeyed => exact readAttributes_of_unkeyed _ hunkeyed
  | duplicated hkeyed hseen => rw [readAttributes_of_keyed hkeyed, hseen]
  | badValue hkeyed hseen hquotes =>
      rw [readAttributes_of_keyed hkeyed, hseen, quotes_iff.1 hquotes]
  | badReference hkeyed hseen hquotes hdecodes =>
      rw [readAttributes_of_keyed hkeyed, hseen, quotes_iff.1 hquotes]
      simp only [unescape, decodes_iff.1 hdecodes]
  | cons hkeyed hseen hquotes hdecodes hname _ ih =>
      rw [readAttributes_of_keyed hkeyed, hseen, quotes_iff.1 hquotes]
      simp only [unescape, decodes_iff.1 hdecodes, ih, shownName, unprefixed_iff.1 hname]

theorem total (seen : List (List Char × Nat)) (position : Nat) (cs : List Char) :
    ∃ r, Attributes seen position cs r := by
  -- what stands behind the quotes of a value is shorter, so the recursion is on the length
  rcases gap_or_keyed position cs with hgap | ⟨stop, hunkeyed⟩ | ⟨start, key, stop, rest, hkeyed⟩
  · exact ⟨_, .nil hgap⟩
  · exact ⟨_, .missingEquals hunkeyed⟩
  · cases hseen : seen.lookup key with
    | some previous => exact ⟨_, .duplicated hkeyed hseen⟩
    | none =>
        obtain ⟨e | ⟨value, after, next⟩, hquotes⟩ := Quotes.total stop rest
        · exact ⟨_, .badValue hkeyed hseen hquotes⟩
        · obtain ⟨e | text, hdecodes⟩ := Decodes.total 0 value
          · exact ⟨_, .badReference hkeyed hseen hquotes hdecodes⟩
          · have hshorter : after.length < cs.length :=
              Nat.lt_of_le_of_lt hquotes.length_le hkeyed.length_lt
            obtain ⟨r, hafter⟩ := total ((key, start) :: seen) next after
            exact ⟨_, .cons hkeyed hseen hquotes hdecodes (unprefixed_iff.2 rfl) hafter⟩
  termination_by cs.length

end Attributes

theorem attributes_iff {seen : List (List Char × Nat)} {position : Nat} {cs : List Char}
    {r : Except MarkupError (List (String × String))} :
    Attributes seen position cs r ↔ readAttributes seen position cs = r :=
  iff_eq_of_exists Attributes.sound (Attributes.total seen position cs)

/-! ### Tags -/

theorem startTag_iff {raw tag : List Char} {r : Except MarkupError (List (String × String))} :
    StartTag raw tag r ↔ tagName raw = tag ∧ tagAttributes raw = r := by
  constructor
  · rintro ⟨htag, hrest, hattributes⟩
    rename_i rest
    obtain ⟨htake, hdrop⟩ := run_append (p := (!isSpace ·)) (by simpa using htag) rest
      (by simpa using hrest)
    rw [tagAttributes, tagName, htake, hdrop]
    exact ⟨rfl, attributes_iff.1 hattributes⟩
  · rintro ⟨rfl, rfl⟩
    obtain ⟨tag, rest, rfl, htag, hrest⟩ := exists_run (!isSpace ·) raw
    obtain ⟨htake, hdrop⟩ := run_append htag rest hrest
    rw [tagAttributes, tagName, htake, hdrop]
    exact .mk (by simpa using htag) (by simpa using hrest) (attributes_iff.2 rfl)

theorem endTag_iff {raw name : List Char} : EndTag raw name ↔ endName raw = name := by
  constructor
  · intro h
    cases h with
    | @named before last gap hlast hgap =>
        have hnot : ¬ (before ++ last :: gap).all isSpace = true := fun hall => by
          simp [hlast] at hall
        have hreverse : (before ++ last :: gap).reverse = gap.reverse ++ last :: before.reverse := by
          simp
        have hgap' : IsGap gap.reverse := fun c hc => hgap c (List.mem_reverse.1 hc)
        rw [endName, if_neg hnot, hreverse, (gap_append hgap' hlast _).2]
        simp
    | blank hgap => exact if_pos (List.all_eq_true.2 hgap)
  · rintro rfl
    rw [endName]
    split
    · rename_i hall
      exact .blank (List.all_eq_true.1 hall)
    · rename_i hnot
      obtain ⟨gap, rest, hraw, hgap, hstop⟩ := exists_run isSpace raw.reverse
      cases rest with
      | nil =>
          refine absurd (List.all_eq_true.2 fun c hc => hgap c ?_) hnot
          rw [List.append_nil] at hraw
          exact hraw ▸ List.mem_reverse.2 hc
      | cons last before =>
          have hlast : isSpace last = false := hstop last rfl
          have hraw' : raw = before.reverse ++ last :: gap.reverse := by
            rw [← List.reverse_reverse raw, hraw]
            simp
          rw [hraw, (gap_append hgap hlast before).2, List.reverse_cons, hraw']
          exact .named hlast fun c hc => hgap c (List.mem_reverse.1 hc)

end LicenseChooser.Markup
