import LicenseChooser.Proofs.Answers.Payload

/-!
Different answers make different documents. Reading a document as a tree loses texts that are blank, so
the tree is too little to tell them apart; its tokens are enough. An answer is a start tag, at most one
run of text and an end tag, and each of these is cut off where it was printed.
-/

namespace LicenseChooser

open Markup

/-- The tokens of an element that holds one text. -/
def leafTokens (a : String × String) : List Token :=
  .open a.1.toList ::
    ((if a.2 = "" then [] else [.text (escape a.2.toList)]) ++ [.close a.1.toList])

theorem tokens_leaf (name characters : String) (rest : Source) :
    (Source.leaf name characters rest).tokens = leafTokens (name, characters) ++ rest.tokens := by
  by_cases hempty : characters = "" <;>
    simp [Source.leaf, Source.tokens, leafTokens, Source.tagText_nil, hempty]

theorem tokens_answers (answers : List (String × String)) :
    (Source.ofList (answers.map fun a => .leaf a.1 a.2)).tokens = answers.flatMap leafTokens := by
  induction answers with
  | nil => rfl
  | cons a answers ih =>
      rw [List.flatMap_cons, ← ih]
      exact tokens_leaf a.1 a.2 _

theorem tokens_answersSource (id locale : String) (answers : List (String × String)) :
    (answersSource id locale answers).tokens =
      .open "answers".toList :: .text (escape " ".toList) ::
        (leafTokens ("locale", locale) ++ .open (classElement id).toList ::
          (answers.flatMap leafTokens ++
            .close (classElement id).toList :: [.close "answers".toList])) := by
  have hblank : " " ≠ "" := by decide
  simp only [answersSource, Source.tokens, tokens_leaf, tokens_answers, Source.tagText_nil,
    if_neg hblank, Bool.false_and, Bool.false_eq_true, if_false, List.append_assoc,
    List.cons_append, List.nil_append]

/-- An element with one text ends at the same token, whatever follows it. -/
theorem leafTokens_append_inj {a a' : String × String} {ts ts' : List Token}
    (h : leafTokens a ++ ts = leafTokens a' ++ ts') : a = a' ∧ ts = ts' := by
  obtain ⟨name, value⟩ := a
  obtain ⟨name', value'⟩ := a'
  rw [leafTokens, leafTokens, List.cons_append, List.cons_append, List.cons.injEq,
    Token.open.injEq, String.toList_inj] at h
  obtain ⟨rfl, h⟩ := h
  -- a value that is empty has no token, so the end tag stands where the other has its text
  by_cases hempty : value = "" <;> by_cases hempty' : value' = "" <;>
    simp only [hempty, hempty', if_true, if_false, List.nil_append, List.cons_append,
      List.cons.injEq, reduceCtorEq, false_and, true_and, Token.text.injEq] at h
  · exact ⟨by rw [hempty, hempty'], h⟩
  · obtain ⟨hvalue, hts⟩ := h
    rw [String.toList_inj.1 (escape_injective hvalue)]
    exact ⟨rfl, hts⟩

/-- The answers of a class end at the first end tag that belongs to none of them. -/
theorem flatMap_leafTokens_inj {answers answers' : List (String × String)} {raw raw' : List Char}
    {ts ts' : List Token}
    (h : answers.flatMap leafTokens ++ .close raw :: ts =
      answers'.flatMap leafTokens ++ .close raw' :: ts') : answers = answers' := by
  induction answers generalizing answers' with
  | nil =>
      cases answers' with
      | nil => rfl
      | cons a' answers' => cases h
  | cons a answers ih =>
      cases answers' with
      | nil => cases h
      | cons a' answers' =>
          rw [List.flatMap_cons, List.flatMap_cons, List.append_assoc, List.append_assoc] at h
          obtain ⟨rfl, hrest⟩ := leafTokens_append_inj h
          rw [ih hrest]

theorem classElement_inj {id id' : String}
    (h : (classElement id).toList = (classElement id').toList) : id = id' := by
  rw [toList_classElement, toList_classElement, List.append_cancel_left_eq] at h
  exact String.toList_inj.1 h

/-- One document carries one class, one locale and one list of answers. -/
theorem answerPayload_unambiguous {id id' locale locale' payload : String}
    {answers answers' : Answers} (h : answerPayload id locale answers = .ok payload)
    (h' : answerPayload id' locale' answers' = .ok payload) :
    id = id' ∧ locale = locale' ∧ answers.items = answers'.items := by
  obtain ⟨hid, hkeys, hpayload⟩ := answerPayload_eq_ok h
  obtain ⟨hid', hkeys', hpayload'⟩ := answerPayload_eq_ok h'
  have htokens := tokens_eq_of_toXml_eq (wellFormed_answersSource hid hkeys locale)
    (wellFormed_answersSource hid' hkeys' locale') (hpayload.symm.trans hpayload')
  rw [tokens_answersSource, tokens_answersSource, List.cons.injEq, List.cons.injEq] at htokens
  obtain ⟨hlocale, hrest⟩ := leafTokens_append_inj htokens.2.2
  rw [List.cons.injEq, Token.open.injEq] at hrest
  exact ⟨classElement_inj hrest.1, congrArg Prod.snd hlocale, flatMap_leafTokens_inj hrest.2⟩

/-- Values that are blank, empty or look like markup, recorded in two ways. -/
theorem answerPayload_unambiguous_blank :
    let answers := Answers.ofList [("a", "1"), ("b", ""), ("c", "&lt;/c>"), ("a", " ")]
    let answers' := Answers.ofList [("a", " "), ("b", ""), ("c", "&lt;/c>")]
    let payload := (answersSource "standard" "\n" answers.items).toXml
    answerPayload "standard" "\n" answers = .ok payload ∧
      answerPayload "standard" "\n" answers' = .ok payload ∧
      "standard" = "standard" ∧ "\n" = "\n" ∧ answers.items = answers'.items := by
  intro answers answers' payload
  have h : answerPayload "standard" "\n" answers = .ok payload := by rfl
  have h' : answerPayload "standard" "\n" answers' = .ok payload := by rfl
  exact ⟨h, h', answerPayload_unambiguous h h'⟩

end LicenseChooser
