import LicenseChooser.License.Reading
import LicenseChooser.License.Writing
import LicenseChooser.Proofs.Markup.Printing
import LicenseChooser.Proofs.Text.Scanning

/-!
A class that is written and read again. Whatever its strings hold, it comes back with every text and
every identifier inside it trimmed, or the first question with a blank identifier is reported; choices
are looked at before the question that has them. In particular a class comes back unchanged exactly
when it is in normal form.
-/

namespace LicenseChooser

open Markup Text

def Choice.trimmed (c : Choice) : Choice := ⟨trim c.id, trim c.label, trim c.description⟩

def Question.trimmed (q : Question) : Question :=
  ⟨trim q.id, trim q.label, trim q.description, q.choices.map Choice.trimmed⟩

/-- The identifier of the class is not part of its document. -/
def LicenseClass.trimmed (l : LicenseClass) : LicenseClass :=
  ⟨l.id, trim l.label, l.questions.map Question.trimmed⟩

def Choice.Normal (c : Choice) : Prop :=
  trim c.id = c.id ∧ c.id ≠ "" ∧ trim c.label = c.label ∧ trim c.description = c.description

def Question.Normal (q : Question) : Prop :=
  trim q.id = q.id ∧ q.id ≠ "" ∧ trim q.label = q.label ∧ trim q.description = q.description ∧
    ∀ c ∈ q.choices, c.Normal

def LicenseClass.Normal (l : LicenseClass) : Prop :=
  trim l.label = l.label ∧ ∀ q ∈ l.questions, q.Normal

instance (c : Choice) : Decidable c.Normal :=
  inferInstanceAs (Decidable (_ ∧ _ ∧ _ ∧ _))

instance (q : Question) : Decidable q.Normal :=
  inferInstanceAs (Decidable (_ ∧ _ ∧ _ ∧ _ ∧ ∀ c ∈ q.choices, c.Normal))

instance (l : LicenseClass) : Decidable l.Normal :=
  inferInstanceAs (Decidable (_ ∧ ∀ q ∈ l.questions, q.Normal))

/-- The node that is missed when the question is read. -/
def Question.defect? (q : Question) : Option String :=
  if q.choices.any fun c => allBlank c.id.toList then some "enum/@id"
  else if allBlank q.id.toList then some "field/@id"
  else none

def Choice.element (c : Choice) : Element :=
  ⟨"enum", [("id", c.id)],
    .cons (.leaf "label" c.label) (.cons (.leaf "description" c.description) .nil)⟩

def Question.element (q : Question) : Element :=
  ⟨"field", [("id", q.id)], .cons (.leaf "label" q.label)
    (.cons (.leaf "description" q.description) (.ofElements (q.choices.map Choice.element)))⟩

def LicenseClass.element (l : LicenseClass) : Element :=
  ⟨"licenseclass", [("id", l.id)],
    .cons (.leaf "label" l.label) (.ofElements (l.questions.map Question.element))⟩

theorem content_choiceSource (c : Choice) (rest : Source) :
    (c.source rest).content = .cons c.element rest.content := by
  simp (disch := decide) only [Choice.source, Source.content, Source.content_leaf, List.map_cons,
    List.map_nil, shownName_toList]
  rfl

theorem content_questionSource (q : Question) (rest : Source) :
    (q.source rest).content = .cons q.element rest.content := by
  have hchoices := Source.content_ofList q.choices fun c _ => content_choiceSource c
  simp (disch := decide) only [Question.source, Source.content, Source.content_leaf, List.map_cons,
    List.map_nil, shownName_toList, hchoices]
  rfl

theorem wellFormed_choiceSource (c : Choice) {rest : Source} (h : rest.WellFormed) :
    (c.source rest).WellFormed :=
  ⟨by decide, by simp; decide, by simp,
    Source.wellFormed_leaf (by decide) _ (Source.wellFormed_leaf (by decide) _ trivial), h⟩

theorem wellFormed_questionSource (q : Question) {rest : Source} (h : rest.WellFormed) :
    (q.source rest).WellFormed := by
  have hchoices := Source.wellFormed_ofList q.choices fun c _ _ => wellFormed_choiceSource c
  exact ⟨by decide, by simp; decide, by simp,
    Source.wellFormed_leaf (by decide) _ (Source.wellFormed_leaf (by decide) _ hchoices), h⟩

theorem wellFormed_classSource (l : LicenseClass) : l.source.WellFormed := by
  have hquestions := Source.wellFormed_ofList l.questions fun q _ _ => wellFormed_questionSource q
  exact ⟨by decide, by simp; decide, by simp, Source.wellFormed_leaf (by decide) _ hquestions,
    trivial⟩

theorem parse_classToXml (l : LicenseClass) : Document.parse l.toXml = .ok ⟨l.element⟩ := by
  have hquestions := Source.content_ofList l.questions fun q _ => content_questionSource q
  rw [LicenseClass.toXml, LicenseClass.source, Document.parse_toXml (wellFormed_classSource l)]
  simp (disch := decide) only [Source.content_leaf, List.map_cons, List.map_nil, shownName_toList,
    hquestions]
  rfl

theorem labelText_leaf (e : Element) {name characters : String}
    (h : e.child? name = some (.leaf name characters)) : labelText e name = trim characters := by
  simp only [labelText, Element.childText?, h, Option.map_some, Option.getD_some, Element.text_leaf,
    trim_ite_allBlank]

theorem identifier?_of_id {e : Element} {id : String} (h : e.attribute? "id" = some id) :
    identifier? e = if allBlank id.toList then none else some (trim id) := by
  rw [identifier?, h, Option.map_some, Option.filter_some]
  by_cases hb : allBlank id.toList = true
  · rw [if_pos hb, (trim_eq_empty_iff id).2 hb]
    rfl
  · have hne : trim id ≠ "" := fun he => hb ((trim_eq_empty_iff id).1 he)
    rw [if_neg hb, if_pos (bne_iff_ne.2 hne)]

theorem requireIdentifier_of_id {e : Element} {id : String} (h : e.attribute? "id" = some id)
    (node : String) :
    requireIdentifier e node =
      if allBlank id.toList then .error (.missing Operation.getLicense node) else .ok (trim id) := by
  rw [requireIdentifier, identifier?_of_id h]
  cases allBlank id.toList <;> rfl

/-- A value, unless a node is missed. -/
def unlessMissing {α : Type} (missed : Option String) (value : α) : Except Failure α :=
  match missed with
  | some node => .error (.missing Operation.getLicense node)
  | none => .ok value

/-- A list is read as a whole, or up to its first defect. -/
theorem mapM_of_defect {α β γ : Type} {read : β → Except Failure γ} {written : α → β}
    {value : α → γ} {defect : α → Option String}
    (h : ∀ x, read (written x) = unlessMissing (defect x) (value x)) (xs : List α) :
    (xs.map written).mapM read = unlessMissing (xs.findSome? defect) (xs.map value) := by
  induction xs with
  | nil => rfl
  | cons x xs ih =>
      rw [List.map_cons, List.mapM_cons, ih, h, List.findSome?_cons]
      cases defect x with
      | some e => rfl
      | none => cases xs.findSome? defect <;> rfl

def Choice.defect? (c : Choice) : Option String :=
  if allBlank c.id.toList then some "enum/@id" else none

theorem ofElement_choiceElement (c : Choice) :
    Choice.ofElement c.element = unlessMissing c.defect? c.trimmed := by
  have hid : c.element.attribute? "id" = some c.id := rfl
  have hlabel : labelText c.element "label" = trim c.label := labelText_leaf _ rfl
  have hdescription : labelText c.element "description" = trim c.description := labelText_leaf _ rfl
  rw [Choice.ofElement, requireIdentifier_of_id hid, hlabel, hdescription, Choice.defect?]
  cases allBlank c.id.toList <;> rfl

theorem childrenNamed_enum (q : Question) :
    q.element.childrenNamed "enum" = q.choices.map Choice.element := by
  have henum : ∀ e ∈ q.choices.map Choice.element, (e.name == "enum") = true := by
    intro e he
    obtain ⟨c, -, rfl⟩ := List.mem_map.1 he
    rfl
  rw [Element.childrenNamed, Element.children, Question.element, Content.elements_cons,
    Content.elements_cons, Content.elements_ofElements, List.filter_cons_of_neg (by simp [Element.leaf]),
    List.filter_cons_of_neg (by simp [Element.leaf]), List.filter_eq_self.2 henum]

theorem childrenNamed_field (l : LicenseClass) :
    l.element.childrenNamed "field" = l.questions.map Question.element := by
  have hfield : ∀ e ∈ l.questions.map Question.element, (e.name == "field") = true := by
    intro e he
    obtain ⟨q, -, rfl⟩ := List.mem_map.1 he
    rfl
  rw [Element.childrenNamed, Element.children, LicenseClass.element, Content.elements_cons,
    Content.elements_ofElements, List.filter_cons_of_neg (by simp [Element.leaf]),
    List.filter_eq_self.2 hfield]

theorem findSome?_choiceDefect (choices : List Choice) :
    choices.findSome? Choice.defect? =
      if choices.any fun c => allBlank c.id.toList then some "enum/@id" else none := by
  induction choices with
  | nil => rfl
  | cons c choices ih =>
      rw [List.findSome?_cons, List.any_cons, Choice.defect?, ih]
      cases allBlank c.id.toList <;> rfl

theorem ofElement_questionElement (q : Question) :
    Question.ofElement q.element = unlessMissing q.defect? q.trimmed := by
  have hid : q.element.attribute? "id" = some q.id := rfl
  have hlabel : labelText q.element "label" = trim q.label := labelText_leaf _ rfl
  have hdescription : labelText q.element "description" = trim q.description := labelText_leaf _ rfl
  rw [Question.ofElement, childrenNamed_enum, mapM_of_defect ofElement_choiceElement,
    requireIdentifier_of_id hid, hlabel, hdescription, Question.defect?,
    findSome?_choiceDefect]
  cases q.choices.any fun c => allBlank c.id.toList with
  | true => rfl
  | false => cases allBlank q.id.toList <;> rfl

theorem ofElement_classElement (l : LicenseClass) :
    LicenseClass.ofElement l.id l.element =
      unlessMissing (l.questions.findSome? Question.defect?) l.trimmed := by
  have hlabel : labelText l.element "label" = trim l.label := labelText_leaf _ rfl
  rw [LicenseClass.ofElement, childrenNamed_field, mapM_of_defect ofElement_questionElement, hlabel]
  cases l.questions.findSome? Question.defect? <;> rfl

theorem parse_of_find? {id body : String} {d : Document} {e : Element}
    (hbody : Document.parse body = .ok d) (he : d.find? "licenseclass" = some e) :
    LicenseClass.parse id body = LicenseClass.ofElement id e := by
  have hread : readDocument Operation.getLicense body = .ok d := by
    rw [readDocument, hbody]
    rfl
  rw [LicenseClass.parse, hread]
  simp only [bind, Except.bind, he]

theorem parse_toXml_eq (l : LicenseClass) :
    LicenseClass.parse l.id l.toXml =
      unlessMissing (l.questions.findSome? Question.defect?) l.trimmed := by
  have hroot : (Document.mk l.element).root.name = "licenseclass" := rfl
  rw [parse_of_find? (parse_classToXml l) (Document.find?_root hroot), ofElement_classElement]

theorem ne_empty_iff_of_trimmed {s : String} (h : trim s = s) :
    s ≠ "" ↔ allBlank s.toList = false := by
  rw [← Bool.not_eq_true, ← trim_eq_empty_iff, h]

theorem map_eq_self_iff {α : Type} (f : α → α) (xs : List α) :
    xs.map f = xs ↔ ∀ x ∈ xs, f x = x := by
  induction xs with
  | nil => simp
  | cons x xs ih => rw [List.map_cons, List.cons.injEq, ih, List.forall_mem_cons]

theorem Choice.normal_iff (c : Choice) : c.Normal ↔ c.defect? = none ∧ c.trimmed = c := by
  cases c with
  | mk id label description =>
      simp only [Normal, trimmed, defect?, mk.injEq, ite_eq_right_iff, reduceCtorEq, imp_false,
        Bool.not_eq_true]
      constructor
      · rintro ⟨hid, hne, hlabel, hdescription⟩
        exact ⟨(ne_empty_iff_of_trimmed hid).1 hne, hid, hlabel, hdescription⟩
      · rintro ⟨hne, hid, hlabel, hdescription⟩
        exact ⟨hid, (ne_empty_iff_of_trimmed hid).2 hne, hlabel, hdescription⟩

theorem Question.defect?_eq_none_iff (q : Question) :
    q.defect? = none ↔ (∀ c ∈ q.choices, c.defect? = none) ∧ allBlank q.id.toList = false := by
  rw [← List.findSome?_eq_none_iff, findSome?_choiceDefect, defect?]
  cases q.choices.any fun c => allBlank c.id.toList <;> cases allBlank q.id.toList <;> simp

theorem Question.normal_iff (q : Question) : q.Normal ↔ q.defect? = none ∧ q.trimmed = q := by
  rw [defect?_eq_none_iff]
  cases q with
  | mk id label description choices =>
      simp only [Normal, trimmed, mk.injEq, map_eq_self_iff, Choice.normal_iff]
      constructor
      · rintro ⟨hid, hne, hlabel, hdescription, hchoices⟩
        exact ⟨⟨fun c hc => (hchoices c hc).1, (ne_empty_iff_of_trimmed hid).1 hne⟩, hid, hlabel,
          hdescription, fun c hc => (hchoices c hc).2⟩
      · rintro ⟨⟨hdefect, hne⟩, hid, hlabel, hdescription, hchoices⟩
        exact ⟨hid, (ne_empty_iff_of_trimmed hid).2 hne, hlabel, hdescription,
          fun c hc => ⟨hdefect c hc, hchoices c hc⟩⟩

theorem LicenseClass.normal_iff (l : LicenseClass) :
    l.Normal ↔ l.questions.findSome? Question.defect? = none ∧ l.trimmed = l := by
  rw [List.findSome?_eq_none_iff]
  cases l with
  | mk id label questions =>
      simp only [Normal, trimmed, mk.injEq, true_and, map_eq_self_iff, Question.normal_iff]
      constructor
      · rintro ⟨hlabel, hquestions⟩
        exact ⟨fun q hq => (hquestions q hq).1, hlabel, fun q hq => (hquestions q hq).2⟩
      · rintro ⟨hdefect, hlabel, hquestions⟩
        exact ⟨hlabel, fun q hq => ⟨hdefect q hq, hquestions q hq⟩⟩

/-- What comes back is decided by the first question with a blank identifier, and a class comes back
as it is exactly in normal form. -/
theorem classParse_toXml (l : LicenseClass) :
    LicenseClass.parse l.id l.toXml =
      (match l.questions.findSome? Question.defect? with
      | none => .ok l.trimmed
      | some node => .error (.missing Operation.getLicense node)) ∧
    (LicenseClass.parse l.id l.toXml = .ok l ↔ l.Normal) := by
  constructor
  · rw [parse_toXml_eq]
    cases l.questions.findSome? Question.defect? <;> rfl
  · rw [parse_toXml_eq, LicenseClass.normal_iff]
    cases l.questions.findSome? Question.defect? with
    | none => simp [unlessMissing]
    | some node => simp [unlessMissing]

end LicenseChooser
