import LicenseChooser.Proofs.Answers.Payload

/-!
Which answers can be sent, what is wrong with those that cannot, and the text of those that can. The
identifier is judged first and may be empty; of the keys, each of which must be a name, the first bad
one decides.
-/

namespace LicenseChooser

open Markup Text

/-- Nothing but ASCII letters, digits, dots, underscores and hyphens. -/
def IsNameText (s : String) : Prop := ∀ c ∈ s.toList, isNameChar c = true

/-- Such a text that begins with a letter or an underscore. -/
def IsKey (key : String) : Prop := IsNameText key ∧ ∃ c ∈ key.toList.head?, isNameStart c = true

/-- The identifier and every key can be sent. -/
structure Acceptable (id : String) (answers : Answers) : Prop where
  id : IsNameText id
  keys : ∀ a ∈ answers.items, IsKey a.1

theorem isElementName_iff (name : String) : isElementName name = true ↔ IsKey name := by
  constructor
  · intro h
    refine ⟨(isNameChar_of_isElementName h).2, ?_⟩
    rw [isElementName] at h
    split at h
    · exact absurd h Bool.false_ne_true
    · rename_i c rest hname
      rw [hname]
      exact ⟨c, rfl, (Bool.and_eq_true_iff.1 h).1⟩
  · rintro ⟨hchars, c, hc, hstart⟩
    obtain ⟨rest, hname⟩ := List.head?_eq_some_iff.1 (Option.mem_def.1 hc)
    have hrest : rest.all isNameChar = true := by
      rw [List.all_eq_true]
      intro d hd
      exact hchars d (hname ▸ List.mem_cons_of_mem c hd)
    rw [isElementName, hname]
    exact Bool.and_eq_true_iff.2 ⟨hstart, hrest⟩

theorem isElementName_eq_false_iff (name : String) : isElementName name = false ↔ ¬ IsKey name := by
  rw [← isElementName_iff, Bool.not_eq_true]

theorem isElementName_classElement_iff (id : String) :
    isElementName (classElement id) = true ↔ IsNameText id := by
  have hword : ∀ c ∈ "license-".toList, isNameChar c = true :=
    List.all_eq_true.1 (by decide)
  rw [isElementName_iff, IsKey, IsNameText, IsNameText, toList_classElement, List.forall_mem_append]
  exact ⟨fun h => h.1.2, fun h => ⟨⟨hword, h⟩, 'l', rfl, by decide⟩⟩

section Payload

variable {id : String} {answers : Answers}

theorem answerPayload_of_id (h : ¬ IsNameText id) (locale : String) (answers : Answers) :
    answerPayload id locale answers = .error (.invalidLicenseId id) := by
  rw [← isElementName_classElement_iff, Bool.not_eq_true] at h
  rw [answerPayload, h]
  rfl

theorem answerPayload_of_key (hid : IsNameText id) {earlier later : List (String × String)}
    {key value : String} (hitems : answers.items = earlier ++ (key, value) :: later)
    (hearlier : ∀ a ∈ earlier, IsKey a.1) (hkey : ¬ IsKey key) (locale : String) :
    answerPayload id locale answers = .error (.invalidAnswerKey key) := by
  have hfind : answers.items.find? (fun p => !isElementName p.1) = some (key, value) := by
    rw [hitems, List.find?_append, List.find?_eq_none.2, Option.none_or, List.find?_cons_of_pos]
    · rw [(isElementName_eq_false_iff key).2 hkey]
      rfl
    · intro a ha
      simpa [isElementName_iff] using hearlier a ha
  rw [answerPayload, (isElementName_classElement_iff id).2 hid, hfind]
  rfl

theorem answerPayload_of_acceptable (h : Acceptable id answers) (locale : String) :
    answerPayload id locale answers = .ok (answersSource id locale answers.items).toXml := by
  have hfind : answers.items.find? (fun p => !isElementName p.1) = none := by
    rw [List.find?_eq_none]
    intro a ha
    simpa [isElementName_iff] using h.keys a ha
  rw [answerPayload, (isElementName_classElement_iff id).2 h.id, hfind]
  rfl

theorem acceptable_of_answerPayload {locale payload : String}
    (h : answerPayload id locale answers = .ok payload) : Acceptable id answers := by
  obtain ⟨hid, hkeys, -⟩ := answerPayload_eq_ok h
  exact ⟨(isElementName_classElement_iff id).1 hid,
    fun a ha => (isElementName_iff a.1).1 (hkeys a ha)⟩

theorem exists_of_not_acceptable (h : ¬ Acceptable id answers) (locale : String) :
    ∃ e, answerPayload id locale answers = .error e ∧ e.kind = .invalidInput := by
  cases hp : answerPayload id locale answers with
  | ok payload => exact absurd (acceptable_of_answerPayload hp) h
  | error e =>
      refine ⟨e, rfl, ?_⟩
      rw [answerPayload] at hp
      split at hp
      · cases hp
        rfl
      · split at hp
        · cases hp
          rfl
        · cases hp

end Payload

/-- A value as it is written inside an element. -/
def escaped (value : String) : String := String.ofList (escape value.toList)

def answerText (a : String × String) : String :=
  "<" ++ a.1 ++ ">" ++ escaped a.2 ++ "</" ++ a.1 ++ ">"

/-- The document that carries answers, as it goes out. -/
def answersText (id locale : String) (answers : List (String × String)) : String :=
  "<answers> <locale>" ++ escaped locale ++ "</locale><license-" ++ id ++ ">" ++
    String.join (answers.map answerText) ++ "</license-" ++ id ++ "></answers>"

theorem toXml_element (name : String) (inside rest : Source) :
    (Source.element name [] false inside rest).toXml =
      "<" ++ name ++ ">" ++ inside.toXml ++ "</" ++ name ++ ">" ++ rest.toXml := by
  simp [Source.toXml, Source.print, Source.printAttributes, ← String.toList_inj]

theorem toXml_text (characters : String) (rest : Source) :
    (Source.text characters rest).toXml = escaped characters ++ rest.toXml := String.ofList_append

theorem toXml_leaf (name characters : String) (rest : Source) :
    (Source.leaf name characters rest).toXml = answerText (name, characters) ++ rest.toXml := by
  have hnil : Source.nil.toXml = "" := rfl
  rw [Source.leaf, toXml_element, toXml_text, hnil, String.append_empty, answerText]

theorem toXml_answers (answers : List (String × String)) :
    (Source.ofList (answers.map fun a => .leaf a.1 a.2)).toXml =
      String.join (answers.map answerText) := by
  induction answers with
  | nil => rfl
  | cons a answers ih =>
      rw [List.map_cons, List.map_cons, String.join_cons, ← ih]
      exact toXml_leaf a.1 a.2 _

theorem toXml_answersSource (id locale : String) (answers : List (String × String)) :
    (answersSource id locale answers).toXml = answersText id locale answers := by
  have hnil : Source.nil.toXml = "" := rfl
  have hblank : escaped " " = " " := by rfl
  have hopen : "<answers> <locale>" =
      "<" ++ ("answers" ++ (">" ++ (" " ++ ("<" ++ ("locale" ++ ">"))))) := by rfl
  have hclass : "</locale><license-" =
      "</" ++ ("locale" ++ (">" ++ ("<" ++ "license-"))) := by rfl
  have hclose : "></answers>" = ">" ++ ("</" ++ ("answers" ++ ">")) := by rfl
  have hend : "</license-" = "</" ++ "license-" := by rfl
  -- its equation would be matched against the literals character by character
  delta answersText
  rw [answersSource, toXml_element, toXml_text, toXml_leaf, toXml_element, toXml_answers, hnil,
    hopen, hclass, hclose, hend]
  simp only [hblank, answerText, classElement, String.append_assoc, String.append_empty]

end LicenseChooser
