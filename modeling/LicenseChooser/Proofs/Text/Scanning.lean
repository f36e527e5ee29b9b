import LicenseChooser.Text.Blank
import LicenseChooser.Text.Scan

/-!
Where a run of characters ends, and what trimming leaves: nothing exactly when all of a text is white
space, and never a text with white space at either end.
-/

namespace LicenseChooser.Text

/-- A run ends where the first character that does not belong to it stands. -/
theorem run_append {p : Char → Bool} {run : List Char} (hrun : ∀ c ∈ run, p c = true)
    (rest : List Char) (hrest : ∀ c ∈ rest.head?, p c = false) :
    (run ++ rest).takeWhile p = run ∧ (run ++ rest).dropWhile p = rest := by
  rw [List.takeWhile_append_of_pos hrun, List.dropWhile_append_of_pos hrun]
  cases rest with
  | nil => exact ⟨List.append_nil run, rfl⟩
  | cons c rest =>
      have hc : ¬ p c = true := by
        rw [hrest c rfl]
        exact Bool.false_ne_true
      rw [List.takeWhile_cons_of_neg hc, List.dropWhile_cons_of_neg hc, List.append_nil]
      exact ⟨rfl, rfl⟩

/-- Every text is such a run and what follows it. -/
theorem exists_run (p : Char → Bool) (cs : List Char) :
    ∃ run rest, cs = run ++ rest ∧ (∀ c ∈ run, p c = true) ∧ ∀ c ∈ rest.head?, p c = false := by
  refine ⟨cs.takeWhile p, cs.dropWhile p, List.takeWhile_append_dropWhile.symm,
    List.all_eq_true.1 List.all_takeWhile, fun c hc => ?_⟩
  have hhead := List.head?_dropWhile_not p cs
  rwa [Option.mem_def.1 hc] at hhead

theorem byteLength_append (cs ds : List Char) :
    byteLength (cs ++ ds) = byteLength cs + byteLength ds := by
  induction cs with
  | nil => rw [List.nil_append, byteLength, Nat.zero_add]
  | cons c cs ih => rw [List.cons_append, byteLength, byteLength, ih, Nat.add_assoc]

/-- A text is cut at the first character of the kind, unless there is none in it. -/
theorem cutWhere_cases (p : Char → Bool) (cs : List Char) :
    (∃ before c after, cs = before ++ c :: after ∧ (∀ d ∈ before, p d = false) ∧ p c = true ∧
      cutWhere p cs = (before, some after)) ∨
    (∀ d ∈ cs, p d = false) ∧ cutWhere p cs = (cs, none) := by
  have hbefore : ∀ d ∈ cs.takeWhile (!p ·), p d = false := fun d hd => by
    simpa using List.all_eq_true.1 List.all_takeWhile d hd
  have hcut : cs.takeWhile (!p ·) ++ cs.dropWhile (!p ·) = cs := List.takeWhile_append_dropWhile
  have hhead := List.head?_dropWhile_not (!p ·) cs
  rw [cutWhere]
  cases hdrop : cs.dropWhile (!p ·) with
  | nil =>
      rw [hdrop, List.append_nil] at hcut
      exact .inr ⟨hcut ▸ hbefore, rfl⟩
  | cons c after =>
      rw [hdrop] at hcut hhead
      exact .inl ⟨_, c, after, hcut.symm, hbefore, by simpa using hhead, rfl⟩

theorem cutWhere_append {p : Char → Bool} {before : List Char} {c : Char}
    (hbefore : ∀ d ∈ before, p d = false) (hc : p c = true) (after : List Char) :
    cutWhere p (before ++ c :: after) = (before, some after) := by
  have hrun : ∀ d ∈ before, (!p d) = true := fun d hd => by rw [hbefore d hd, Bool.not_false]
  have hstop : ∀ d ∈ (c :: after).head?, (!p d) = false := by simp [hc]
  obtain ⟨htake, hdrop⟩ := run_append hrun (c :: after) hstop
  rw [cutWhere, htake, hdrop]

theorem cutWhere_of_none {p : Char → Bool} {cs : List Char} (h : ∀ d ∈ cs, p d = false) :
    cutWhere p cs = (cs, none) := by
  rcases cutWhere_cases p cs with ⟨before, c, after, rfl, -, hc, -⟩ | ⟨-, hcut⟩
  · rw [h c (by simp)] at hc
    cases hc
  · exact hcut

theorem splitWhere_of_none {p : Char → Bool} {cs : List Char} (h : ∀ d ∈ cs, p d = false) :
    splitWhere p cs = [cs] := by
  induction cs with
  | nil => rfl
  | cons c cs ih =>
      obtain ⟨hc, hcs⟩ := List.forall_mem_cons.1 h
      rw [splitWhere, hc, ih hcs]
      rfl

theorem breakOn_singleton {d : Char} {before : List Char} (h : ∀ c ∈ before, c ≠ d)
    (rest : List Char) : breakOn [d] (before ++ d :: rest) = some (before, rest) := by
  induction before with
  | nil => simp [breakOn]
  | cons c before ih =>
      obtain ⟨hc, hbefore⟩ := List.forall_mem_cons.1 h
      simp [breakOn, ih hbefore, hc.symm]

theorem breakOn_eq_none {d : Char} {cs : List Char} (h : d ∉ cs) : breakOn [d] cs = none := by
  induction cs with
  | nil => rfl
  | cons c cs ih =>
      have hc : d ≠ c := List.ne_of_not_mem_cons h
      simp [breakOn, ih (List.not_mem_of_not_mem_cons h), hc]

theorem breakOn_append {delimiter cs before after : List Char} (hd : delimiter ≠ [])
    (h : breakOn delimiter cs = some (before, after)) (more : List Char) :
    breakOn delimiter (cs ++ more) = some (before, after ++ more) := by
  induction cs generalizing before with
  | nil => simp [breakOn, hd] at h
  | cons c cs ih =>
      rw [breakOn] at h
      rw [List.cons_append, breakOn]
      by_cases hp : delimiter.isPrefixOf (c :: cs) = true
      · have hlonger : delimiter.isPrefixOf (c :: (cs ++ more)) = true := by
          rw [List.isPrefixOf_iff_prefix] at hp ⊢
          exact hp.trans (List.prefix_append (c :: cs) more)
        rw [if_pos hp, Option.some.injEq, Prod.mk.injEq] at h
        rw [if_pos hlonger, ← h.1, ← h.2, ← List.cons_append,
          List.drop_append_of_le_length (List.isPrefixOf_iff_prefix.1 hp).length_le]
      · rw [if_neg hp] at h
        obtain ⟨⟨b, a⟩, hb, he⟩ := Option.map_eq_some_iff.1 h
        cases he
        have hcut := append_of_breakOn hb
        -- a delimiter that began at `c` and ended in `more` would lie across the one that is found
        have hlonger : ¬ delimiter.isPrefixOf (c :: (cs ++ more)) = true := by
          rw [List.isPrefixOf_iff_prefix] at hp ⊢
          intro hlong
          apply hp
          apply List.prefix_of_prefix_length_le hlong (List.prefix_append (c :: cs) more)
          rw [hcut]
          simp only [List.length_cons, List.length_append]
          omega
        rw [if_neg hlonger, ih hb]
        rfl

/-- A delimiter whose last character is none of its others does not begin in a text without one and
end in another that follows. -/
theorem not_prefix_of_not_infix {init : List Char} {last : Char} (hlast : last ∉ init)
    {before : List Char} (hne : before ≠ []) (h : ¬ (init ++ [last]) <:+: before)
    (rest : List Char) : ¬ (init ++ [last]) <+: before ++ ((init ++ [last]) ++ rest) := by
  intro hlong
  have hbefore : before <+: before ++ ((init ++ [last]) ++ rest) := List.prefix_append _ _
  rcases List.prefix_or_prefix_of_prefix hlong hbefore with hp | ⟨overlap, hoverlap⟩
  · exact h hp.isInfix
  · rw [← hoverlap, List.prefix_append_right_inj, hoverlap] at hlong
    have hlength := congrArg List.length hoverlap
    rw [List.length_append] at hlength
    have hpos := List.length_pos_iff.2 hne
    have hshort : overlap <+: init ++ [last] :=
      List.prefix_of_prefix_length_le hlong (List.prefix_append _ _) (by omega)
    -- what would lie in the second delimiter ends as the first one does
    rcases List.prefix_concat_iff.1 hshort with rfl | hinit
    · omega
    · rcases List.eq_nil_or_concat overlap with rfl | ⟨_, d, rfl⟩
      · rw [List.append_nil] at hoverlap
        exact h (hoverlap ▸ List.infix_refl _)
      · have hd : d = last := by
          have := congrArg List.getLast? hoverlap
          simpa using this
        exact hlast (hd ▸ hinit.subset (by simp))

theorem breakOn_delimited {init : List Char} {last : Char} (hlast : last ∉ init)
    {before : List Char} (h : ¬ (init ++ [last]) <:+: before) (rest : List Char) :
    breakOn (init ++ [last]) (before ++ ((init ++ [last]) ++ rest)) = some (before, rest) := by
  induction before with
  | nil =>
      cases hd : init ++ [last] with
      | nil => simp at hd
      | cons d ds => simp [breakOn]
  | cons c before ih =>
      have hnot := not_prefix_of_not_infix hlast (List.cons_ne_nil c before) h rest
      rw [← List.isPrefixOf_iff_prefix, List.cons_append] at hnot
      rw [List.cons_append, breakOn, if_neg hnot, ih fun hi => h (List.infix_cons hi)]
      rfl

theorem dropWhile_of_allBlank {cs : List Char} (h : allBlank cs = true) :
    cs.dropWhile isBlank = [] := by
  have hrun := run_append (List.all_eq_true.1 h) [] (by simp)
  rw [List.append_nil] at hrun
  exact hrun.2

theorem allBlank_trimChars (cs : List Char) : allBlank (trimChars cs) = allBlank cs := by
  have hdrop : ∀ ds : List Char, allBlank (ds.dropWhile isBlank) = allBlank ds := by
    intro ds
    have := List.any_dropWhile (p := isBlank) (l := ds)
    rw [← Bool.not_inj_iff, allBlank, allBlank, ← this, List.not_all_eq_any_not]
  have hreverse : ∀ ds : List Char, allBlank ds.reverse = allBlank ds := fun ds => List.all_reverse
  rw [trimChars, hreverse, hdrop, hreverse, hdrop]

theorem trimChars_eq_nil_iff (cs : List Char) : trimChars cs = [] ↔ allBlank cs = true := by
  constructor
  · intro h
    rw [← allBlank_trimChars, h]
    rfl
  · intro h
    rw [trimChars, dropWhile_of_allBlank h]
    rfl

theorem trim_eq_empty_iff (s : String) : trim s = "" ↔ allBlank s.toList = true := by
  rw [← trimChars_eq_nil_iff, ← toList_trim, ← String.toList_inj]
  rfl

/-- The trimmed text is the same whether or not blank text was dropped. -/
theorem trim_ite_allBlank (s : String) : trim (if allBlank s.toList then "" else s) = trim s := by
  split
  · rename_i h
    rw [(trim_eq_empty_iff s).2 h]
    rfl
  · rfl

/-- Neither the first nor the last character is white space. -/
def Trimmed (s : String) : Prop :=
  (∀ c ∈ s.toList.head?, isBlank c = false) ∧ ∀ c ∈ s.toList.getLast?, isBlank c = false

theorem head?_dropWhile_isBlank (cs : List Char) :
    ∀ c ∈ (cs.dropWhile isBlank).head?, isBlank c = false := by
  intro c hc
  have hhead := List.head?_dropWhile_not isBlank cs
  rwa [Option.mem_def.1 hc] at hhead

theorem dropWhile_isBlank_eq_self {cs : List Char} (h : ∀ c ∈ cs.head?, isBlank c = false) :
    cs.dropWhile isBlank = cs := by
  cases cs with
  | nil => rfl
  | cons c cs => exact List.dropWhile_cons_of_neg (by simp [h c rfl])

theorem trimmed_trim (s : String) : Trimmed (trim s) := by
  rw [Trimmed, toList_trim, trimChars, List.head?_reverse, List.getLast?_reverse]
  refine ⟨fun c hc => ?_, head?_dropWhile_isBlank _⟩
  -- what is cut off at the end leaves the first character, if there is one left, where it was
  obtain ⟨cut, hcut⟩ := List.dropWhile_suffix isBlank (l := (s.toList.dropWhile isBlank).reverse)
  have hlast := @List.getLast?_append _ cut ((s.toList.dropWhile isBlank).reverse.dropWhile isBlank)
  rw [hcut, Option.mem_def.1 hc, List.getLast?_reverse, Option.some_or] at hlast
  exact head?_dropWhile_isBlank s.toList c hlast

theorem trim_eq_self_iff (s : String) : trim s = s ↔ Trimmed s := by
  constructor
  · intro h
    rw [← h]
    exact trimmed_trim s
  · rintro ⟨hfirst, hlast⟩
    rw [← List.head?_reverse] at hlast
    rw [trim, trimChars, dropWhile_isBlank_eq_self hfirst, dropWhile_isBlank_eq_self hlast,
      List.reverse_reverse, String.ofList_toList]

end LicenseChooser.Text
