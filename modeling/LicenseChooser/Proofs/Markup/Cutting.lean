import LicenseChooser.Proofs.Markup.Printing

/-!
Where one token ends nothing depends on what follows. A text that does not break off inside markup is
cut in the same way whatever markup comes after it, so the tokens of two such texts in a row are those
of the first and then those of the second.
-/

namespace LicenseChooser.Markup

open Text

theorem splitTag_append {quote : Option Char} {cs inside after : List Char}
    (h : splitTag quote cs = some (inside, after)) (more : List Char) :
    splitTag quote (cs ++ more) = some (inside, after ++ more) := by
  induction cs generalizing quote inside with
  | nil => simp [splitTag] at h
  | cons c cs ih =>
      simp only [splitTag, List.cons_append] at h ⊢
      split at h
      · rename_i hend
        cases h
        rw [if_pos hend]
      · rename_i hend
        obtain ⟨⟨_, _⟩, hp, he⟩ := Option.map_eq_some_iff.1 h
        cases he
        rw [if_neg hend, ih hp]
        rfl

theorem splitNested_append {depth : Nat} {cs inside after : List Char}
    (h : splitNested depth cs = some (inside, after)) (more : List Char) :
    splitNested depth (cs ++ more) = some (inside, after ++ more) := by
  induction cs generalizing depth inside with
  | nil => simp [splitNested] at h
  | cons c cs ih =>
      by_cases hc : c = '>'
      · subst hc
        simp only [splitNested, List.cons_append] at h ⊢
        split at h
        · rename_i hdepth
          cases h
          rw [if_pos hdepth]
        · rename_i hdepth
          obtain ⟨⟨_, _⟩, hp, he⟩ := Option.map_eq_some_iff.1 h
          cases he
          rw [if_neg hdepth, ih hp]
          rfl
      · simp only [splitNested, List.cons_append] at h ⊢
        obtain ⟨⟨_, _⟩, hp, he⟩ := Option.map_eq_some_iff.1 h
        cases he
        rw [ih hp]
        rfl

/-- A tag is told from the other kinds of markup by its first character. -/
theorem head?_of_tag {cs : List Char} (h : ∀ rest, cs = '!' :: rest → False)
    (h' : ∀ rest, cs = '?' :: rest → False) : cs.head? ≠ some '!' ∧ cs.head? ≠ some '?' := by
  cases cs with
  | nil => simp
  | cons c cs =>
      refine ⟨fun he => h cs ?_, fun he => h' cs ?_⟩
      all_goals simpa using he

theorem isPrefixOf_append {p cs : List Char} (h : p.isPrefixOf cs = true) (more : List Char) :
    p.isPrefixOf (cs ++ more) = true := by
  rw [List.isPrefixOf_iff_prefix] at h ⊢
  exact h.trans (List.prefix_append cs more)

theorem beginsWithKeyword_append {keyword cs : List Char}
    (h : beginsWithKeyword keyword cs = true) (more : List Char) :
    beginsWithKeyword keyword (cs ++ more) = true := by
  rw [beginsWithKeyword, List.map_append]
  exact isPrefixOf_append h (more.map Char.toUpper)

/-- What begins with an exclamation mark when a document type is declared. -/
theorem markup_declaration {rest : List Char} (h : beginsWithKeyword ['D'] rest = true) :
    markup ('!' :: rest) =
      match splitNested 0 rest with
      | some (inside, after) =>
          if beginsWithKeyword ['D', 'O', 'C', 'T', 'Y', 'P', 'E'] inside then
            if (inside.drop 7).all isSpace then .error .namelessDoctype else .ok (.aside, after)
          else .error .openDoctype
      | none => .error .openDoctype := by
  unfold markup
  split
  · rename_i heq
    cases heq
    exact absurd h (by simp [beginsWithKeyword, List.isPrefixOf])
  · rename_i heq
    cases heq
    exact absurd h (by simp [beginsWithKeyword, List.isPrefixOf])
  · rename_i heq
    cases heq
    rw [if_pos h]
    rfl
  · rename_i heq
    cases heq
  · rename_i hmark _
    exact absurd rfl (hmark rest)

theorem markup_instruction {rest : List Char} (h : rest.head? ≠ some '>') :
    markup ('?' :: rest) =
      match breakOn ['?', '>'] rest with
      | some (_, after) => .ok (.aside, after)
      | none => .error .openInstruction := by
  simp only [markup]
  split
  · exact absurd rfl h
  · rfl

/-- What is read of a text is read of it whatever follows. -/
theorem markup_append {cs after : List Char} {t : Token} (h : markup cs = .ok (t, after))
    (more : List Char) : markup (cs ++ more) = .ok (t, after ++ more) := by
  unfold markup at h
  split at h
  · rename_i rest
    split at h
    · rename_i hprefix
      split at h
      · rename_i hb
        cases h
        have hdrop : (rest ++ more).drop 6 = rest.drop 6 ++ more :=
          List.drop_append_of_le_length (List.isPrefixOf_iff_prefix.1 hprefix).length_le
        simp only [List.cons_append, markup, isPrefixOf_append hprefix more, if_true, hdrop,
          breakOn_append (List.cons_ne_nil _ _) hb more]
      · cases h
    · cases h
  · split at h
    · split at h
      · rename_i hb
        cases h
        simp only [List.cons_append, markup, breakOn_append (List.cons_ne_nil _ _) hb more]
      · cases h
    · cases h
  · split at h
    · rename_i hletter
      split at h
      · rename_i hb
        split at h
        · rename_i hkeyword
          split at h
          · cases h
          · rename_i hnamed
            cases h
            rw [List.cons_append, markup_declaration (beginsWithKeyword_append hletter more),
              splitNested_append hb more]
            exact (if_pos hkeyword).trans (if_neg hnamed)
        · cases h
      · cases h
    · cases h
  · rename_i rest
    split at h
    · cases h
    · rename_i hne
      split at h
      · rename_i hb
        cases h
        have hhead : (rest ++ more).head? ≠ some '>' := by
          cases rest with
          | nil => simp [breakOn] at hb
          | cons c rest =>
              intro he
              exact hne rest (by simpa using he)
        rw [List.cons_append, markup_instruction hhead,
          breakOn_append (List.cons_ne_nil _ _) hb more]
      · cases h
  · rename_i hmark hquestion
    have hhead : (cs ++ more).head? = cs.head? := by
      cases cs with
      | nil => simp [splitTag] at h
      | cons c cs => rfl
    obtain ⟨hd, hi⟩ := head?_of_tag hmark hquestion
    rw [markup_tag (hhead ▸ hd) (hhead ▸ hi)]
    split at h
    · rename_i hs
      cases h
      rw [splitTag_append hs more]
      rfl
    · rename_i raw tail hslash hs
      have happend := splitTag_append hs more
      split
      · rename_i hs'
        rw [happend] at hs'
        cases hs'
        exact absurd rfl (hslash _)
      · rename_i hs'
        rw [happend] at hs'
        cases hs'
        split at h
        · rename_i hlast
          cases h
          exact if_pos hlast
        · rename_i hlast
          cases h
          exact if_neg hlast
      · rename_i hs'
        rw [happend] at hs'
        cases hs'
    · cases h

theorem scan_nil : scan [] = [] := by rw [scan]

theorem scan_of_markup_error {cs : List Char} {e : MarkupError} (h : markup cs = .error e) :
    scan ('<' :: cs) = [.broken e] := by
  rw [scan]
  split
  · rename_i h'
    simp [h] at h'
  · rename_i e' h'
    rw [h, Except.error.injEq] at h'
    rw [h']

def Token.isBroken : Token → Bool
  | .broken _ => true
  | _ => false

/-- The text does not break off inside markup. -/
def Whole (cs : List Char) : Prop := ∀ t ∈ scan cs, t.isBroken = false

instance : DecidablePred Whole := fun cs =>
  inferInstanceAs (Decidable (∀ t ∈ scan cs, t.isBroken = false))

theorem atMarkup_nil : AtMarkup [] := by simp [AtMarkup]

theorem AtMarkup.append {cs rest : List Char} (h : AtMarkup cs) (hrest : AtMarkup rest) :
    AtMarkup (cs ++ rest) := by
  cases cs with
  | nil => exact hrest
  | cons c cs => exact h

theorem atMarkup_dropWhile (cs : List Char) : AtMarkup (cs.dropWhile (· != '<')) := by
  intro d hd
  have hhead := List.head?_dropWhile_not (· != '<') cs
  rw [Option.mem_def.1 hd] at hhead
  simpa using hhead

/-- A run of characters ends at markup, also where that is not part of the text. -/
theorem scan_run {c : Char} (hc : c ≠ '<') (cs : List Char) {rest : List Char}
    (hrest : AtMarkup (cs.dropWhile (· != '<') ++ rest)) :
    scan (c :: cs ++ rest) =
      .text (c :: cs.takeWhile (· != '<')) :: scan (cs.dropWhile (· != '<') ++ rest) := by
  have hsplit : c :: cs ++ rest =
      (c :: cs.takeWhile (· != '<')) ++ (cs.dropWhile (· != '<') ++ rest) := by
    rw [← List.append_assoc]
    exact congrArg (c :: · ++ rest) List.takeWhile_append_dropWhile.symm
  have hrun : ∀ d ∈ c :: cs.takeWhile (· != '<'), d ≠ '<' := by
    rw [List.forall_mem_cons]
    exact ⟨hc, fun d hd => bne_iff_ne.1 (List.all_eq_true.1 List.all_takeWhile d hd)⟩
  rw [hsplit, scan_text (List.cons_ne_nil _ _) hrun hrest]

theorem scan_cons {c : Char} (hc : c ≠ '<') (cs : List Char) :
    scan (c :: cs) =
      .text (c :: cs.takeWhile (· != '<')) :: scan (cs.dropWhile (· != '<')) := by
  have hrun := scan_run hc cs ((atMarkup_dropWhile cs).append atMarkup_nil)
  rwa [List.append_nil, List.append_nil] at hrun

theorem eq_nil_of_scan {cs : List Char} (h : scan cs = []) : cs = [] := by
  induction cs using scan.induct with
  | case1 => rfl
  | case2 cs t after hm => simp [scan_of_markup hm] at h
  | case3 cs e hm => simp [scan_of_markup_error hm] at h
  | case4 c cs hc => simp [scan_cons (fun he => hc he)] at h

/-- What follows a whole text does not change how the text is cut, unless it goes on with a run of
characters at the end. -/
theorem scan_append {before : List Char} (h : Whole before) {rest : List Char}
    (hrest : (∃ raw, (scan before).getLast? = some (.text raw)) → AtMarkup rest) :
    scan (before ++ rest) = scan before ++ scan rest := by
  -- as the text is cut: a token is the same with more behind it, and what is left is whole again
  have htail : ∀ {t : Token} {ts : List Token},
      (∃ raw, ts.getLast? = some (.text raw)) → ∃ raw, (t :: ts).getLast? = some (.text raw) := by
    rintro t ts ⟨raw, hraw⟩
    exact ⟨raw, by rw [List.getLast?_cons, hraw]; rfl⟩
  induction before using scan.induct with
  | case1 => rw [scan_nil]; rfl
  | case2 cs t after hm ih =>
      rw [Whole, scan_of_markup hm] at h
      rw [scan_of_markup hm] at hrest ⊢
      have hwhole : Whole after := fun u hu => h u (List.mem_cons_of_mem t hu)
      rw [List.cons_append, scan_of_markup (markup_append hm rest),
        ih hwhole fun hlast => hrest (htail hlast)]
      rfl
  | case3 cs e hm =>
      rw [Whole, scan_of_markup_error hm] at h
      exact absurd (h _ (List.mem_singleton_self _)) (by simp [Token.isBroken])
  | case4 c cs hc ih =>
      have hne : c ≠ '<' := fun he => hc he
      rw [scan_cons hne] at hrest ⊢
      have hwhole : Whole (cs.dropWhile (· != '<')) := fun u hu =>
        h u (by rw [scan_cons hne]; exact List.mem_cons_of_mem _ hu)
      have hstop : AtMarkup (cs.dropWhile (· != '<') ++ rest) := by
        cases hd : cs.dropWhile (· != '<') with
        | nil => exact hrest ⟨_, by rw [hd, scan_nil]; rfl⟩
        | cons d ds =>
            have hmarkup := atMarkup_dropWhile cs
            rw [hd] at hmarkup
            exact hmarkup
      rw [scan_run hne cs hstop, ih hwhole fun hlast => hrest (htail hlast)]
      rfl

/-- A character less at the beginning is a shorter first run, or none. -/
theorem scan_tail {cs : List Char} {c : Char} (hc : c ≠ '<') (h : cs.head? = some c) :
    ∃ run ts, scan cs = .text run :: ts ∧
      (scan cs.tail = ts ∨ ∃ run', scan cs.tail = .text run' :: ts) := by
  obtain ⟨rest, rfl⟩ := List.head?_eq_some_iff.1 h
  refine ⟨_, _, scan_cons hc rest, ?_⟩
  cases rest with
  | nil => exact .inl rfl
  | cons d rest =>
      by_cases hd : d = '<'
      · subst hd
        exact .inl rfl
      · have hdrop : (d :: rest).dropWhile (· != '<') = rest.dropWhile (· != '<') :=
          List.dropWhile_cons_of_pos (by simpa using hd)
        exact .inr ⟨_, by rw [hdrop]; exact scan_cons hd rest⟩

end LicenseChooser.Markup
