import LicenseChooser.Answers.Payload
import LicenseChooser.Proofs.Markup.Printing

/-!
The document that carries answers, read as any document is. Every accepted name is a word without a
prefix, so it is read as it was written; values and the locale are escaped and come back as they were,
or empty when they are blank. Nothing in them makes an element or ends one.
-/

namespace LicenseChooser

open Markup Text

theorem isWordChar_of_isNameChar {c : Char} (h : isNameChar c = true) : isWordChar c = true :=
  isWordChar_of_all h (by decide)

theorem isNameChar_of_isElementName {name : String} (h : isElementName name = true) :
    name.toList ≠ [] ∧ ∀ c ∈ name.toList, isNameChar c = true := by
  rw [isElementName] at h
  split at h
  · exact absurd h Bool.false_ne_true
  · rename_i c rest hname
    rw [Bool.and_eq_true] at h
    have hstart : isNameChar c = true := by
      have := h.1
      simp only [isNameStart, Bool.or_eq_true, beq_iff_eq] at this
      rcases this with ha | rfl
      · simp [isNameChar, Char.isAlphanum, ha]
      · decide
    rw [hname]
    exact ⟨List.cons_ne_nil _ _, List.forall_mem_cons.2 ⟨hstart, List.all_eq_true.1 h.2⟩⟩

theorem isWord_of_isElementName {name : String} (h : isElementName name = true) : IsWord name := by
  obtain ⟨hne, hchars⟩ := isNameChar_of_isElementName h
  exact ⟨hne, fun c hc => isWordChar_of_isNameChar (hchars c hc)⟩

theorem shownName_of_isElementName {name : String} (h : isElementName name = true) :
    shownName name.toList = name := by
  apply shownName_toList
  intro hcolon
  exact absurd ((isNameChar_of_isElementName h).2 ':' hcolon) (by decide)

theorem toList_classElement (id : String) :
    (classElement id).toList = "license-".toList ++ id.toList := String.toList_append

theorem answerPayload_eq_ok {id locale : String} {answers : Answers} {payload : String}
    (h : answerPayload id locale answers = .ok payload) :
    isElementName (classElement id) = true ∧
      (∀ a ∈ answers.items, isElementName a.1 = true) ∧
      payload = (answersSource id locale answers.items).toXml := by
  rw [answerPayload] at h
  split at h
  · cases h
  · rename_i hid
    split at h
    · cases h
    · rename_i hkeys
      refine ⟨by simpa using hid, ?_, (Except.ok.inj h).symm⟩
      simpa [List.find?_eq_none] using hkeys

def answersElement (id : String) (answers : List (String × String)) : Element :=
  ⟨classElement id, [], .ofElements (answers.map fun a => .leaf a.1 a.2)⟩

theorem wellFormed_answersSource {id : String} {answers : List (String × String)}
    (hid : isElementName (classElement id) = true)
    (hkeys : ∀ a ∈ answers, isElementName a.1 = true) (locale : String) :
    (answersSource id locale answers).WellFormed := by
  have hanswers : (Source.ofList (answers.map fun a => .leaf a.1 a.2)).WellFormed :=
    Source.wellFormed_ofList answers fun a ha _ =>
      Source.wellFormed_leaf (isWord_of_isElementName (hkeys a ha)) a.2
  have hclass : (Source.element (classElement id) [] false
      (.ofList (answers.map fun a => .leaf a.1 a.2)) .nil).WellFormed :=
    ⟨isWord_of_isElementName hid, by simp, by simp, hanswers, trivial⟩
  exact ⟨by decide, by simp, by simp,
    ⟨.inr rfl, Source.wellFormed_leaf (by decide) locale hclass⟩, trivial⟩

theorem parse_answersSource {id : String} {answers : List (String × String)}
    (hid : isElementName (classElement id) = true)
    (hkeys : ∀ a ∈ answers, isElementName a.1 = true) (locale : String) :
    Document.parse (answersSource id locale answers).toXml =
      .ok ⟨⟨"answers", [], .ofElements [.leaf "locale" locale, answersElement id answers]⟩⟩ := by
  have hsource := wellFormed_answersSource hid hkeys locale
  have hcontent : (Source.ofList (answers.map fun a => .leaf a.1 a.2)).content =
      .ofElements (answers.map fun a => .leaf a.1 a.2) := by
    apply Source.content_ofList
    intro a ha rest
    rw [Source.content_leaf, shownName_of_isElementName (hkeys a ha)]
  have hblank : allBlank " ".toList = true := by decide
  rw [answersSource] at hsource ⊢
  rw [Document.parse_toXml hsource]
  simp (disch := decide) only [Source.content, hblank, if_true, Source.content_leaf, hcontent,
    shownName_toList, shownName_of_isElementName hid, List.map_nil]
  rfl

/-- The document of answers has the locale and the class under its root, and under the class one
element for each answer, in order, with the value of the answer. Only a blank value is lost. -/
theorem payload_read {id locale : String} {answers : Answers} {payload : String}
    (h : answerPayload id locale answers = .ok payload) :
    ∃ d l c, Document.parse payload = .ok d ∧
      d.root.name = "answers" ∧ d.root.attributes = [] ∧ d.root.children = [l, c] ∧
      l.name = "locale" ∧ l.attributes = [] ∧ l.children = [] ∧
      l.text = (if allBlank locale.toList then "" else locale) ∧
      c.name = "license-" ++ id ∧ c.attributes = [] ∧
      c.children.map (fun e => (e.name, e.text)) =
        answers.items.map (fun a => (a.1, if allBlank a.2.toList then "" else a.2)) ∧
      ∀ e ∈ c.children, e.attributes = [] ∧ e.children = [] := by
  obtain ⟨hid, hkeys, rfl⟩ := answerPayload_eq_ok h
  have hchildren : (answersElement id answers.items).children =
      answers.items.map fun a => .leaf a.1 a.2 := Content.elements_ofElements _
  refine ⟨_, .leaf "locale" locale, answersElement id answers.items,
    parse_answersSource hid hkeys locale, rfl, rfl, rfl, rfl, rfl, Element.children_leaf _ _,
    Element.text_leaf _ _, rfl, rfl, ?_, ?_⟩
  · rw [hchildren, List.map_map]
    apply List.map_congr_left
    intro a _
    rw [Function.comp_apply, Element.text_leaf]
    rfl
  · rw [hchildren]
    intro e he
    obtain ⟨a, -, rfl⟩ := List.mem_map.1 he
    exact ⟨rfl, Element.children_leaf _ _⟩

theorem payload_read_markup :
    let answers := Answers.ofList [("jurisdiction", "</jurisdiction><x y='1'>"), ("note", " \n")]
    let payload := (answersSource "standard" "]]>&" answers.items).toXml
    answerPayload "standard" "]]>&" answers = .ok payload ∧
    ∃ d l c, Document.parse payload = .ok d ∧
      d.root.name = "answers" ∧ d.root.attributes = [] ∧ d.root.children = [l, c] ∧
      l.name = "locale" ∧ l.attributes = [] ∧ l.children = [] ∧
      l.text = (if allBlank "]]>&".toList then "" else "]]>&") ∧
      c.name = "license-" ++ "standard" ∧ c.attributes = [] ∧
      c.children.map (fun e => (e.name, e.text)) =
        answers.items.map (fun a => (a.1, if allBlank a.2.toList then "" else a.2)) ∧
      ∀ e ∈ c.children, e.attributes = [] ∧ e.children = [] := by
  intro answers payload
  have h : answerPayload "standard" "]]>&" answers = .ok payload := by
    rfl
  exact ⟨h, payload_read h⟩

end LicenseChooser
