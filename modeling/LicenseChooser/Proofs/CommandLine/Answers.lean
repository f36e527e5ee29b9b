import LicenseChooser.Proofs.CommandLine.Parsing

/-!
Answers on the command line. Given that the rest of a command line is accepted, it is accepted with
answers exactly if each of them assigns a value to a field; the answers are then the fields with their
values, in order, and nothing else is changed.
-/

namespace LicenseChooser.CommandLine

open Text

/-- A field, trimmed and not empty, and the text behind the first equals sign as it is. -/
def Assigns (raw : String) (answer : String × String) : Prop :=
  ∃ written, raw = written ++ "=" ++ answer.2 ∧ '=' ∉ written.toList ∧
    answer.1 = trim written ∧ answer.1 ≠ ""

/-- There is no equals sign, or nothing but white space before the first one. -/
def Unassigned (raw : String) : Prop :=
  '=' ∉ raw.toList ∨
    ∃ written value, raw = written ++ "=" ++ value ∧ '=' ∉ written.toList ∧
      allBlank written.toList = true

section Assignment

theorem toList_equals (written value : String) :
    (written ++ "=" ++ value).toList = written.toList ++ '=' :: value.toList := by
  simp

theorem cutWhere_equals {written : String} (h : '=' ∉ written.toList) (value : String) :
    cutWhere (· == '=') (written ++ "=" ++ value).toList = (written.toList, some value.toList) := by
  rw [toList_equals]
  exact cutWhere_append (fun _ hd => beq_false_of_ne (ne_of_mem_of_not_mem hd h)) rfl _

theorem assignment?_of_assigns {raw : String} {answer : String × String} (h : Assigns raw answer) :
    assignment? raw = some answer := by
  obtain ⟨written, rfl, hwritten, hname, hne⟩ := h
  have hsome : answer.1.toList.isEmpty = false := by
    rw [List.isEmpty_eq_false_iff]
    exact fun h => hne (String.toList_inj.1 h)
  rw [assignment?, cutWhere_equals hwritten]
  simp only [← toList_trim, ← hname, hsome, Bool.false_eq_true, if_false, String.ofList_toList]

theorem assignment?_of_unassigned {raw : String} (h : Unassigned raw) : assignment? raw = none := by
  rcases h with h | ⟨written, value, rfl, hwritten, hblank⟩
  · have hcut : cutWhere (· == '=') raw.toList = (raw.toList, none) :=
      cutWhere_of_none fun _ hd => beq_false_of_ne (ne_of_mem_of_not_mem hd h)
    rw [assignment?, hcut]
  · have hempty : (trimChars written.toList).isEmpty = true := by
      rw [(trimChars_eq_nil_iff _).2 hblank]
      rfl
    rw [assignment?, cutWhere_equals hwritten]
    simp only [hempty, if_true]

theorem assigns_or_unassigned (raw : String) : (∃ answer, Assigns raw answer) ∨ Unassigned raw := by
  by_cases hequals : '=' ∈ raw.toList
  · obtain ⟨before, after, hraw, hbefore⟩ := List.eq_append_cons_of_mem hequals
    have hwhole : raw = String.ofList before ++ "=" ++ String.ofList after := by
      rw [← String.toList_inj, toList_equals, String.toList_ofList, String.toList_ofList, hraw]
    have hwritten : '=' ∉ (String.ofList before).toList := by
      rwa [String.toList_ofList]
    cases hblank : allBlank (String.ofList before).toList with
    | true => exact .inr (.inr ⟨_, _, hwhole, hwritten, hblank⟩)
    | false =>
        refine .inl ⟨(trim (String.ofList before), String.ofList after), _, hwhole, hwritten, rfl, ?_⟩
        intro hempty
        rw [trim_eq_empty_iff, hblank] at hempty
        cases hempty
  · exact .inr (.inl hequals)

/-- Every text is of one kind or the other, and none is of both. -/
theorem not_unassigned_iff {raw : String} : ¬ Unassigned raw ↔ ∃ answer, Assigns raw answer := by
  refine ⟨(assigns_or_unassigned raw).resolve_right, ?_⟩
  rintro ⟨answer, h⟩ hnot
  have hnone := assignment?_of_unassigned hnot
  rw [assignment?_of_assigns h] at hnone
  cases hnone

theorem forall₂_assigns {raws : List String} (h : ∀ raw ∈ raws, ¬ Unassigned raw) :
    List.Forall₂ Assigns raws (raws.filterMap assignment?) := by
  induction raws with
  | nil => exact .nil
  | cons raw raws ih =>
      obtain ⟨hraw, hrest⟩ := List.forall_mem_cons.1 h
      obtain ⟨answer, hanswer⟩ := not_unassigned_iff.1 hraw
      rw [List.filterMap_cons_some (assignment?_of_assigns hanswer)]
      exact .cons hanswer (ih hrest)

end Assignment

/-- Whether an item is said for an option. -/
def Item.isFor (name : String) : Item → Bool
  | .option o _ => o.name == name
  | .operand _ => false

/-- All items but those for an option. -/
def without (name : String) (items : List Item) : List Item := items.filter (!·.isFor name)

section Levels

variable {l : Level}

theorem mem_of_long? {name : String} {o : OptionSpec} (h : l.long? name = some (.option o)) :
    o ∈ l.options := by
  rw [Level.long?] at h
  split at h
  · cases h
  · split at h
    · cases h
    · obtain ⟨o', ho', heq⟩ := Option.map_eq_some_iff.1 h
      cases heq
      exact List.mem_of_find?_eq_some ho'

theorem mem_of_short? {c : Char} {o : OptionSpec} (h : l.short? c = some (.option o)) :
    o ∈ l.options ∧ o.letter = some c := by
  rw [Level.short?] at h
  split at h
  · cases h
  · split at h
    · cases h
    · obtain ⟨o', ho', heq⟩ := Option.map_eq_some_iff.1 h
      cases heq
      exact ⟨List.mem_of_find?_eq_some ho', by simpa using List.find?_some ho'⟩

variable (hlevel : commandLevels.lookup "issue" = some l)
include hlevel

theorem eq_answerOption {o : OptionSpec} (ho : o ∈ l.options) (hname : o.name = "answer") :
    o = answerOption := by
  have hl : l.options = [localeOption, answerOption] ++ generalOptions := by
    have hlevels : (commandLevels.lookup "issue").map (·.options) =
        some ([localeOption, answerOption] ++ generalOptions) := by decide
    rw [hlevel] at hlevels
    exact Option.some.inj hlevels
  have honly : ∀ o ∈ [localeOption, answerOption] ++ generalOptions, o.name = "answer" →
      o = answerOption := by decide
  exact honly o (hl ▸ ho) hname

theorem eq_answer_of_items {args : List String} {items : List Item} (h : l.Says args items) :
    ∀ item ∈ items, item.isFor "answer" = true → ∃ raw, item = .option answerOption [raw] := by
  induction h with
  | nil => simp
  | @attached name value o args items ho hname hvalue _ ih =>
      rw [List.forall_mem_cons]
      refine ⟨fun h => ?_, ih⟩
      exact ⟨value, by rw [eq_answerOption hlevel (mem_of_long? ho) (beq_iff_eq.1 h)]⟩
  | @apart name value o args items ho hne hname hvalue hplain _ ih =>
      rw [List.forall_mem_cons]
      refine ⟨fun h => ?_, ih⟩
      exact ⟨value, by rw [eq_answerOption hlevel (mem_of_long? ho) (beq_iff_eq.1 h)]⟩
  | @switch name o args items ho hne hname hvalue _ ih =>
      rw [List.forall_mem_cons]
      refine ⟨fun h => ?_, ih⟩
      rw [eq_answerOption hlevel (mem_of_long? ho) (beq_iff_eq.1 h)] at hvalue
      cases hvalue
  | @letters cs os args items hne hdash hcs _ ih =>
      rw [List.forall_mem_append]
      refine ⟨?_, ih⟩
      intro item hitem h
      obtain ⟨o, ho, rfl⟩ := List.mem_map.1 hitem
      obtain ⟨i, hi, rfl⟩ := List.getElem_of_mem ho
      obtain ⟨hlength, hletters⟩ := List.forall₂_iff_get.1 hcs
      have hshort : l.short? (cs[i]) = some (.option os[i]) := hletters i (hlength ▸ hi) hi
      obtain ⟨hmem, hletter⟩ := mem_of_short? hshort
      -- the option for answers has no short form
      rw [eq_answerOption hlevel hmem (beq_iff_eq.1 h)] at hletter
      cases hletter
  | @operand arg args items harg hcommand _ ih =>
      rw [List.forall_mem_cons]
      exact ⟨fun h => (Bool.false_ne_true h).elim, ih⟩

theorem eq_answer_of_arguments {args : List String} {items : List Item} (h : l.SaysAll args items) :
    ∀ item ∈ items, item.isFor "answer" = true → ∃ raw, item = .option answerOption [raw] := by
  cases h with
  | plain h => exact eq_answer_of_items hlevel h
  | escaped operands h =>
      rw [List.forall_mem_append]
      refine ⟨eq_answer_of_items hlevel h, ?_⟩
      intro item hitem hfor
      obtain ⟨arg, -, rfl⟩ := List.mem_map.1 hitem
      cases hfor

end Levels

section Lines

variable {l : Level} {items : List Item}

theorem valuesOf_of_not_isFor {name : String} {item : Item} (h : item.isFor name = false) :
    valuesOf name [item] = [] := by
  cases item with
  | operand arg => rfl
  | option o values =>
      have hname : ∀ p ∈ (taken o values).map (o.name, ·), ¬ (p.1 == name) = true := by
        intro p hp
        obtain ⟨v, -, rfl⟩ := List.mem_map.1 hp
        exact Bool.eq_false_iff.1 h
      rw [valuesOf, List.flatMap_singleton, Item.said, List.filter_eq_nil_iff.2 hname, List.map_nil]

theorem isFor_of_isFor {name other : String} (h : other ≠ name) {item : Item}
    (hfor : item.isFor name = true) : item.isFor other = false := by
  cases item with
  | operand arg => rfl
  | option o values =>
      rw [Item.isFor, beq_iff_eq] at hfor
      rw [Item.isFor, hfor, beq_eq_false_iff_ne]
      exact h.symm

theorem valuesOf_without {name other : String} (h : other ≠ name) (items : List Item) :
    valuesOf other (without name items) = valuesOf other items := by
  induction items with
  | nil => rfl
  | cons item items ih =>
      rw [without, List.filter_cons, valuesOf_cons other item items, ← ih]
      cases hfor : item.isFor name with
      | true =>
          rw [valuesOf_of_not_isFor (isFor_of_isFor h hfor)]
          rfl
      | false => exact valuesOf_cons other item (without name items)

theorem valuesOf_without_self (name : String) (items : List Item) :
    valuesOf name (without name items) = [] := by
  induction items with
  | nil => rfl
  | cons item items ih =>
      rw [without, List.filter_cons]
      cases hfor : item.isFor name with
      | true => exact ih
      | false =>
          rw [Bool.not_false, if_pos rfl, valuesOf_cons, valuesOf_of_not_isFor hfor]
          exact ih

theorem has_takeItem? {item : Item} {g g' : Given} (h : l.takeItem? g item = some g')
    (name : String) : g'.has name = (g.has name || !(valuesOf name [item]).isEmpty) := by
  have hvalues : g'.values name = g.values name ++ valuesOf name [item] := by
    rw [Given.values, options_takeItem? h, List.filter_append, List.map_append, valuesOf,
      List.flatMap_singleton]
    rfl
  rw [Given.has_eq, Given.has_eq, hvalues]
  cases g.values name <;> simp

theorem takeItem?_option {g g' : Given} {o : OptionSpec} {values : List String} :
    l.takeItem? g (.option o values) = some g' ↔ g.take o values = .ok g' :=
  toOption_eq_some_iff

theorem takeItem?_answer {raw : String} (h : ∃ answer, Assigns raw answer) (g : Given) :
    ∃ g', l.takeItem? g (.option answerOption [raw]) = some g' ∧ g'.operand = g.operand := by
  obtain ⟨answer, h⟩ := h
  have hcheck : answerOption.checkValue raw = .ok () := by
    simp only [OptionSpec.checkValue, answerOption, assignment?_of_assigns h, Option.isSome_some,
      if_true]
  refine ⟨{ g with options := g.options ++ [("answer", raw)] },
    takeItem?_option.2 (Given.take_eq_ok_iff.2 ⟨fun _ => List.cons_ne_nil _ _, ?_, ?_, rfl⟩), rfl⟩
  · exact fun h => (Bool.false_ne_true h).elim
  · exact List.forall_mem_singleton.2 hcheck

theorem takeItem?_unassigned {raw : String} (h : Unassigned raw) (g : Given) :
    l.takeItem? g (.option answerOption [raw]) = none := by
  rw [Option.eq_none_iff_forall_ne_some]
  intro g' hg'
  obtain ⟨-, -, hcheck, -⟩ := Given.take_eq_ok_iff.1 (takeItem?_option.1 hg')
  have := hcheck raw (List.mem_singleton_self raw)
  simp [OptionSpec.checkValue, answerOption, assignment?_of_unassigned h] at this

/-- Answers given before make no difference to any other item. -/
theorem takeItem?_same {item : Item} (hfor : item.isFor "answer" = false) {g g' h : Given}
    (hoperand : g'.operand = g.operand)
    (hhas : ∀ name, name ≠ "answer" → g'.has name = g.has name)
    (hg : l.takeItem? g item = some h) :
    ∃ h', l.takeItem? g' item = some h' ∧ h'.operand = h.operand := by
  cases item with
  | operand arg =>
      rw [Level.takeItem?] at hg ⊢
      rw [hoperand]
      split at hg
      · rename_i hfree
        cases hg
        rw [if_pos hfree]
        exact ⟨_, rfl, rfl⟩
      · cases hg
  | option o values =>
      obtain ⟨hvalues, hunique, hcheck, rfl⟩ := Given.take_eq_ok_iff.1 (takeItem?_option.1 hg)
      have hname : o.name ≠ "answer" := beq_eq_false_iff_ne.1 hfor
      rw [← hhas o.name hname] at hunique
      exact ⟨_, takeItem?_option.2 (Given.take_eq_ok_iff.2 ⟨hvalues, hunique, hcheck, rfl⟩), hoperand⟩

theorem has_of_takeItem? {item : Item} {name : String} (hfor : item.isFor name = false)
    {g g' : Given} (h : l.takeItem? g item = some g') : g'.has name = g.has name := by
  rw [has_takeItem? h, valuesOf_of_not_isFor hfor]
  exact Bool.or_false _

/-- Taken over with answers in between, the other items come to what they come to without them, if
every answer assigns something. -/
theorem takeAll?_answers
    (hitems : ∀ item ∈ items, item.isFor "answer" = true → ∃ raw, item = .option answerOption [raw])
    {g g' h : Given} (hoperand : g'.operand = g.operand)
    (hhas : ∀ name, name ≠ "answer" → g'.has name = g.has name)
    (hothers : l.takeAll? (without "answer" items) g = some h) :
    ((∀ raw ∈ valuesOf "answer" items, ¬ Unassigned raw) →
      ∃ h', l.takeAll? items g' = some h' ∧ h'.operand = h.operand) ∧
    ((∃ raw ∈ valuesOf "answer" items, Unassigned raw) → l.takeAll? items g' = none) := by
  induction items generalizing g g' with
  | nil =>
      cases hothers
      exact ⟨fun _ => ⟨g', rfl, hoperand⟩, fun ⟨raw, hraw, _⟩ => absurd hraw List.not_mem_nil⟩
  | cons item items ih =>
      obtain ⟨hitem, hrest⟩ := List.forall_mem_cons.1 hitems
      cases hfor : item.isFor "answer" with
      | true =>
          obtain ⟨raw, rfl⟩ := hitem hfor
          have hothers' : l.takeAll? (without "answer" items) g = some h := by
            rwa [without, List.filter_cons_of_neg (by rw [hfor]; decide)] at hothers
          have hraws : valuesOf "answer" (.option answerOption [raw] :: items) =
              raw :: valuesOf "answer" items := valuesOf_cons ..
          rw [hraws]
          rcases assigns_or_unassigned raw with hassigns | hunassigned
          · obtain ⟨g₁, hg₁, hoperand₁⟩ := takeItem?_answer (l := l) hassigns g'
            have hhas₁ : ∀ name, name ≠ "answer" → g₁.has name = g.has name := by
              intro name hname
              rw [has_of_takeItem? (isFor_of_isFor hname hfor) hg₁, hhas name hname]
            have hwhole : l.takeAll? (.option answerOption [raw] :: items) g' =
                l.takeAll? items g₁ := by
              rw [Level.takeAll?, List.foldlM_cons, hg₁]
              rfl
            obtain ⟨htaken, hrefused⟩ := ih hrest (hoperand₁.trans hoperand) hhas₁ hothers'
            rw [hwhole]
            refine ⟨fun hall => htaken (List.forall_mem_cons.1 hall).2, ?_⟩
            rintro ⟨other, hother, hbad⟩
            rcases List.mem_cons.1 hother with rfl | hother
            · exact absurd hbad (not_unassigned_iff.2 hassigns)
            · exact hrefused ⟨other, hother, hbad⟩
          · refine ⟨fun hall => absurd hunassigned (hall raw List.mem_cons_self), fun _ => ?_⟩
            rw [Level.takeAll?, List.foldlM_cons, takeItem?_unassigned hunassigned]
            rfl
      | false =>
          have hothers' : l.takeAll? (item :: without "answer" items) g = some h := by
            rwa [without, List.filter_cons_of_pos (by rw [hfor]; rfl)] at hothers
          obtain ⟨g₁, hg₁, hothers₁⟩ := Option.bind_eq_some_iff.1 hothers'
          obtain ⟨g₁', hg₁', hoperand₁⟩ := takeItem?_same hfor hoperand hhas hg₁
          have hhas₁ : ∀ name, name ≠ "answer" → g₁'.has name = g₁.has name := by
            intro name hname
            rw [has_takeItem? hg₁', has_takeItem? hg₁, hhas name hname]
          have hwhole : l.takeAll? (item :: items) g' = l.takeAll? items g₁' := by
            rw [Level.takeAll?, List.foldlM_cons, hg₁']
            rfl
          rw [valuesOf_cons, valuesOf_of_not_isFor hfor, List.nil_append, hwhole]
          exact ih hrest hoperand₁ hhas₁ hothers₁

/-- What is given apart from answers decides the rest of an invocation. -/
theorem invocation_congr {inner inner' : Given}
    (h : ∀ name, name ≠ "answer" → inner'.values name = inner.values name) (outer : Given)
    (command : Command) : invocation outer inner' command = invocation outer inner command := by
  have hunder : ∀ name, name ≠ "answer" → outer.under inner' name = outer.under inner name := by
    intro name hname
    rw [Given.under, Given.under, Given.has_eq, Given.has_eq, h name hname]
  rw [invocation, invocation, hunder "config" (by decide), hunder "root-url" (by decide),
    hunder "exclude" (by decide), hunder "verbose" (by decide), hunder "quiet" (by decide)]

theorem command?_issue (g : Given) : l.command? "issue" g =
    if l.operand.isSome && g.operand.isNone then none
    else some (.issue (g.operand.getD "") g.locale g.answers) := rfl

/-- A command line with answers asks for what it asks for without them, and for these answers, if
each assigns something. -/
theorem accepted?_answers {outer : List Item} {i : Invocation}
    (hitems : ∀ item ∈ items, item.isFor "answer" = true → ∃ raw, item = .option answerOption [raw])
    (hothers : accepted? "issue" l outer (without "answer" items) = some i) :
    ∃ id locale, i.command = .issue id locale [] ∧
      ((∀ raw ∈ valuesOf "answer" items, ¬ Unassigned raw) →
        accepted? "issue" l outer items = some
          { i with command := .issue id locale ((valuesOf "answer" items).filterMap assignment?) }) ∧
      ((∃ raw ∈ valuesOf "answer" items, Unassigned raw) →
        accepted? "issue" l outer items = none) := by
  obtain ⟨g, hg, hothers⟩ := Option.bind_eq_some_iff.1 hothers
  obtain ⟨h, hh, hothers⟩ := Option.bind_eq_some_iff.1 hothers
  obtain ⟨command, hcommand, rfl⟩ := Option.map_eq_some_iff.1 hothers
  rw [command?_issue] at hcommand
  obtain ⟨htaken, hrefused⟩ := takeAll?_answers hitems rfl (fun _ _ => rfl) hh
  split at hcommand
  · cases hcommand
  · rename_i hgiven
    cases hcommand
    refine ⟨h.operand.getD "", h.locale, ?_, fun hall => ?_, fun hbad => ?_⟩
    · have hnone : h.answers = [] := by
        rw [Given.answers, values_takeAll? hh]
        exact congrArg (List.filterMap assignment?) (valuesOf_without_self "answer" items)
      rw [← hnone]
      rfl
    · obtain ⟨h', hh', hoperand⟩ := htaken hall
      have hvalues : ∀ name, name ≠ "answer" → h'.values name = h.values name := by
        intro name hname
        rw [values_takeAll? hh', values_takeAll? hh, valuesOf_without hname]
      have hlocale : h'.locale = h.locale := by
        rw [Given.locale, Given.locale, Given.value?, Given.value?,
          hvalues localeOption.name (by decide)]
      have hanswers : h'.answers = (valuesOf "answer" items).filterMap assignment? :=
        congrArg (List.filterMap assignment?) (values_takeAll? hh' "answer")
      rw [accepted?, hg, hh', Option.bind_some, Option.bind_some, command?_issue, hoperand,
        if_neg hgiven, Option.map_some, invocation_congr hvalues, hlocale, hanswers]
      rfl
    · rw [accepted?, hg, hrefused hbad]
      rfl

/-- The same of whole command lines, `base` having all that `args` has but answers. -/
theorem parse_answers {before args base : List String} {outer : List Item} {i : Invocation}
    (houter : topLevel.Says before outer) (hlevel : commandLevels.lookup "issue" = some l)
    (hargs : l.SaysAll args items) (hbase : l.SaysAll base (without "answer" items))
    (hparse : parse (before ++ "issue" :: base) = .ok i) :
    ∃ id locale, i.command = .issue id locale [] ∧
      ((∀ raw ∈ valuesOf "answer" items, ¬ Unassigned raw) →
        parse (before ++ "issue" :: args) = .ok
          { i with command := .issue id locale ((valuesOf "answer" items).filterMap assignment?) }) ∧
      ((∃ raw ∈ valuesOf "answer" items, Unassigned raw) →
        ∃ e, parse (before ++ "issue" :: args) = .error (.usage e)) := by
  have hothers := judged_of_arguments houter hlevel hbase
  rw [hparse] at hothers
  obtain ⟨id, locale, hcommand, hasked, hrefused⟩ :=
    accepted?_answers (eq_answer_of_arguments hlevel hargs) hothers.eq_some
  have hjudged := judged_of_arguments houter hlevel hargs
  refine ⟨id, locale, hcommand, fun hall => ?_, fun hbad => ?_⟩
  · rw [hasked hall] at hjudged
    exact hjudged.eq_ok
  · rw [hrefused hbad] at hjudged
    exact hjudged.eq_error

end Lines

end LicenseChooser.CommandLine
