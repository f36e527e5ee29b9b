import LicenseChooser.Proofs.License.Identifiers

/-!
A class as it is read off an element. Its questions and their choices are the direct children of their
names, all of them and in order, each with its texts; or nothing is read, and the first question with a
defect says what is missing.
-/

namespace LicenseChooser

open Markup Text

namespace Markup

/-- It stands first among the elements of its name in document order. -/
def Document.IsFirst (d : Document) (name : String) (e : Element) : Prop :=
  ∃ before after, d.root :: d.root.content.preorder = before ++ e :: after ∧ e.name = name ∧
    ∀ x ∈ before, x.name ≠ name

theorem Document.find?_eq_some_iff {d : Document} {name : String} {e : Element} :
    d.find? name = some e ↔ d.IsFirst name e := by
  rw [find?, descendants, Element.descendants_eq_preorder, List.find?_eq_some_iff_append, IsFirst]
  simp only [beq_iff_eq, Bool.not_eq_eq_eq_not, Bool.not_true, beq_eq_false_iff_ne, ne_eq]
  constructor
  · rintro ⟨hname, before, after, hall, hbefore⟩
    exact ⟨before, after, hall, hname, hbefore⟩
  · rintro ⟨before, after, hall, hname, hbefore⟩
    exact ⟨hname, before, after, hall, hbefore⟩

namespace Element

/-- Its text of this name: that of its first child of the name, trimmed, or the empty one if it has no
such child. -/
inductive Labelled (e : Element) (name : String) : String → Prop
  | first {before after : List Element} {child : Element}
      (h : e.children = before ++ child :: after) (hname : child.name = name)
      (hbefore : ∀ x ∈ before, x.name ≠ name) : Labelled e name (trim child.text)
  | absent (h : ∀ x ∈ e.children, x.name ≠ name) : Labelled e name ""

theorem labelText_eq_iff {e : Element} {name text : String} :
    labelText e name = text ↔ e.Labelled name text := by
  constructor
  · rintro rfl
    rw [labelText, childText?]
    cases hchild : e.child? name with
    | none => exact .absent (by simpa [child?] using hchild)
    | some child =>
        obtain ⟨hname, before, after, hall, hbefore⟩ := List.find?_eq_some_iff_append.1 hchild
        exact .first hall (by simpa using hname) (by simpa using hbefore)
  · intro h
    rw [labelText, childText?]
    cases h with
    | @first before after child hall hname hbefore =>
        have hchild : e.child? name = some child :=
          List.find?_eq_some_iff_append.2
            ⟨by simpa using hname, before, after, hall, by simpa using hbefore⟩
        rw [hchild]
        rfl
    | absent hnone =>
        have hchild : e.child? name = none := by simpa [child?] using hnone
        rw [hchild]
        rfl

/-- It describes this choice. -/
structure ShowsChoice (e : Element) (c : Choice) : Prop where
  id : e.Identifies c.id
  label : e.Labelled "label" c.label
  description : e.Labelled "description" c.description

/-- It describes this question, and its children `enum` describe the choices. -/
structure ShowsQuestion (e : Element) (q : Question) : Prop where
  id : e.Identifies q.id
  label : e.Labelled "label" q.label
  description : e.Labelled "description" q.description
  choices : List.Forall₂ ShowsChoice (e.childrenNamed "enum") q.choices

/-- It describes this class under the identifier, and its children `field` describe the questions. -/
structure ShowsClass (e : Element) (id : String) (l : LicenseClass) : Prop where
  id : l.id = id
  label : e.Labelled "label" l.label
  questions : List.Forall₂ ShowsQuestion (e.childrenNamed "field") l.questions

/-- It has an identifier, and so has each of its choices. -/
def IsComplete (e : Element) : Prop :=
  e.HasIdentifier ∧ ∀ c ∈ e.childrenNamed "enum", c.HasIdentifier

/-- What the first of these questions that is not complete lacks. That a choice has no identifier
counts before that the question itself has none. -/
inductive Lacks : List Element → String → Prop
  | choice {earlier later : List Element} {q c : Element} (hearlier : ∀ x ∈ earlier, x.IsComplete)
      (hc : c ∈ q.childrenNamed "enum") (hid : ¬ c.HasIdentifier) :
      Lacks (earlier ++ q :: later) "enum/@id"
  | question {earlier later : List Element} {q : Element} (hearlier : ∀ x ∈ earlier, x.IsComplete)
      (hchoices : ∀ c ∈ q.childrenNamed "enum", c.HasIdentifier) (hid : ¬ q.HasIdentifier) :
      Lacks (earlier ++ q :: later) "field/@id"

theorem requireIdentifier_eq_ok_iff {e : Element} {node id : String} :
    requireIdentifier e node = .ok id ↔ e.Identifies id := by
  rw [← identifier?_eq_some_iff, requireIdentifier]
  cases identifier? e <;> simp

theorem choice_eq_ok_iff {e : Element} {c : Choice} :
    Choice.ofElement e = .ok c ↔ e.ShowsChoice c := by
  constructor
  · intro h
    obtain ⟨id, hid, hc⟩ := exists_of_bind_eq_ok h
    cases hc
    exact ⟨requireIdentifier_eq_ok_iff.1 hid, labelText_eq_iff.1 rfl, labelText_eq_iff.1 rfl⟩
  · rintro ⟨hid, hlabel, hdescription⟩
    rw [Choice.ofElement, requireIdentifier_eq_ok_iff.2 hid, labelText_eq_iff.2 hlabel,
      labelText_eq_iff.2 hdescription]
    rfl

theorem choices_eq_ok_iff {es : List Element} {cs : List Choice} :
    es.mapM Choice.ofElement = .ok cs ↔ List.Forall₂ ShowsChoice es cs := by
  simp only [mapM_eq_ok_iff, choice_eq_ok_iff]

theorem question_eq_ok_iff {e : Element} {q : Question} :
    Question.ofElement e = .ok q ↔ e.ShowsQuestion q := by
  constructor
  · intro h
    obtain ⟨choices, hchoices, h⟩ := exists_of_bind_eq_ok h
    obtain ⟨id, hid, hq⟩ := exists_of_bind_eq_ok h
    cases hq
    exact ⟨requireIdentifier_eq_ok_iff.1 hid, labelText_eq_iff.1 rfl, labelText_eq_iff.1 rfl,
      choices_eq_ok_iff.1 hchoices⟩
  · rintro ⟨hid, hlabel, hdescription, hchoices⟩
    rw [Question.ofElement, choices_eq_ok_iff.2 hchoices, requireIdentifier_eq_ok_iff.2 hid,
      labelText_eq_iff.2 hlabel, labelText_eq_iff.2 hdescription]
    rfl

theorem questions_eq_ok_iff {es : List Element} {qs : List Question} :
    es.mapM Question.ofElement = .ok qs ↔ List.Forall₂ ShowsQuestion es qs := by
  simp only [mapM_eq_ok_iff, question_eq_ok_iff]

theorem class_eq_ok_iff {e : Element} {id : String} {l : LicenseClass} :
    LicenseClass.ofElement id e = .ok l ↔ e.ShowsClass id l := by
  constructor
  · intro h
    obtain ⟨questions, hquestions, hl⟩ := exists_of_bind_eq_ok h
    cases hl
    exact ⟨rfl, labelText_eq_iff.1 rfl, questions_eq_ok_iff.1 hquestions⟩
  · rintro ⟨rfl, hlabel, hquestions⟩
    rw [LicenseClass.ofElement, questions_eq_ok_iff.2 hquestions, labelText_eq_iff.2 hlabel]
    rfl

theorem identifierDefect?_eq_some_iff {e : Element} {node missing : String} :
    e.identifierDefect? node = some missing ↔ ¬ e.HasIdentifier ∧ missing = node := by
  rw [← e.identifierDefect?_eq_none_iff node, identifierDefect?]
  split <;> simp [eq_comm]

theorem findSome?_choiceDefect?_of_mem {es : List Element} {c : Element} (hc : c ∈ es)
    (hid : ¬ c.HasIdentifier) : es.findSome? choiceDefect? = some "enum/@id" := by
  cases hdefect : es.findSome? choiceDefect? with
  | none =>
      have hnone := List.findSome?_eq_none_iff.1 hdefect c hc
      exact absurd ((c.identifierDefect?_eq_none_iff _).1 hnone) hid
  | some missing =>
      obtain ⟨earlier, x, later, -, hx, -⟩ := List.findSome?_eq_some_iff.1 hdefect
      rw [(identifierDefect?_eq_some_iff.1 hx).2]

theorem findSome?_choiceDefect?_eq_none_iff {es : List Element} :
    es.findSome? choiceDefect? = none ↔ ∀ c ∈ es, c.HasIdentifier := by
  simp only [List.findSome?_eq_none_iff, choiceDefect?, identifierDefect?_eq_none_iff]

theorem questionDefect?_eq_none_iff {e : Element} : e.questionDefect? = none ↔ e.IsComplete := by
  rw [questionDefect?, Option.or_eq_none_iff, findSome?_choiceDefect?_eq_none_iff,
    identifierDefect?_eq_none_iff, IsComplete, and_comm]

theorem findSome?_questionDefect?_eq_none_iff {es : List Element} :
    es.findSome? questionDefect? = none ↔ ∀ q ∈ es, q.IsComplete := by
  simp only [List.findSome?_eq_none_iff, questionDefect?_eq_none_iff]

theorem findSome?_questionDefect?_eq_some_iff {es : List Element} {missing : String} :
    es.findSome? questionDefect? = some missing ↔ Lacks es missing := by
  constructor
  · intro h
    obtain ⟨earlier, q, later, rfl, hq, hearlier⟩ := List.findSome?_eq_some_iff.1 h
    have hcomplete : ∀ x ∈ earlier, x.IsComplete := fun x hx =>
      questionDefect?_eq_none_iff.1 (hearlier x hx)
    rw [questionDefect?] at hq
    by_cases hchoices : ∀ c ∈ q.childrenNamed "enum", c.HasIdentifier
    · rw [findSome?_choiceDefect?_eq_none_iff.2 hchoices, Option.none_or] at hq
      obtain ⟨hid, rfl⟩ := identifierDefect?_eq_some_iff.1 hq
      exact .question hcomplete hchoices hid
    · push Not at hchoices
      obtain ⟨c, hc, hid⟩ := hchoices
      rw [findSome?_choiceDefect?_of_mem hc hid, Option.some_or, Option.some.injEq] at hq
      exact hq ▸ .choice hcomplete hc hid
  · intro h
    apply List.findSome?_eq_some_iff.2
    cases h with
    | @choice earlier later q c hearlier hc hid =>
        refine ⟨earlier, q, later, rfl, ?_, fun x hx => questionDefect?_eq_none_iff.2 (hearlier x hx)⟩
        rw [questionDefect?, findSome?_choiceDefect?_of_mem hc hid, Option.some_or]
    | @question earlier later q hearlier hchoices hid =>
        refine ⟨earlier, q, later, rfl, ?_, fun x hx => questionDefect?_eq_none_iff.2 (hearlier x hx)⟩
        rw [questionDefect?, findSome?_choiceDefect?_eq_none_iff.2 hchoices, Option.none_or]
        exact identifierDefect?_eq_some_iff.2 ⟨hid, rfl⟩

end Element

end Markup

/-- From a document with a class everything that the class shows is read, if each question and each
choice has an identifier. If not, the first question without all of them decides what is missing. -/
theorem classParse_extracts {body : String} {d : Document} {k : Element}
    (hbody : Document.parse body = .ok d) (hk : d.IsFirst "licenseclass" k) (id : String) :
    (∀ l, LicenseClass.parse id body = .ok l ↔ k.ShowsClass id l) ∧
    ((∃ l, LicenseClass.parse id body = .ok l) ↔
      ∀ q ∈ k.childrenNamed "field", q.IsComplete) ∧
    ∀ failure, LicenseClass.parse id body = .error failure ↔
      ∃ node, Element.Lacks (k.childrenNamed "field") node ∧
        failure = .missing Operation.getLicense node := by
  have hfind : d.find? "licenseclass" = some k := Document.find?_eq_some_iff.2 hk
  have hmisses := (judges_class id).read hbody
  rw [Document.classDefect?, hfind] at hmisses
  refine ⟨fun l => ?_, ?_, fun failure => ?_⟩
  · rw [parse_of_find? hbody hfind, Element.class_eq_ok_iff]
  · rw [hmisses.exists_ok_iff, Element.findSome?_questionDefect?_eq_none_iff]
  · simp only [hmisses.eq_error_iff, Element.findSome?_questionDefect?_eq_some_iff]

/-- What is nested more deeply belongs to no question, and of several texts the first one counts. -/
theorem classParse_extracts_nested :
    let body := "<r><licenseclass><label> A <b>B</b></label><label/><field x:id=' q ' id='p'>" ++
      "<enum id='y'/><g><enum/></g></field><x:field id='r'/></licenseclass></r>"
    ∃ d k, Document.parse body = .ok d ∧ d.IsFirst "licenseclass" k ∧
      LicenseClass.parse "x" body =
        .ok ⟨"x", "A B", [⟨"q", "", "", [⟨"y", "", ""⟩]⟩, ⟨"r", "", "", []⟩]⟩ ∧
      (∀ l, LicenseClass.parse "x" body = .ok l ↔ k.ShowsClass "x" l) ∧
      ((∃ l, LicenseClass.parse "x" body = .ok l) ↔
        ∀ q ∈ k.childrenNamed "field", q.IsComplete) ∧
      ∀ failure, LicenseClass.parse "x" body = .error failure ↔
        ∃ node, Element.Lacks (k.childrenNamed "field") node ∧
          failure = .missing Operation.getLicense node := by
  intro body
  have hread : ((Document.parse body).toOption.bind (·.find? "licenseclass")).bind
      (fun k => (LicenseClass.ofElement "x" k).toOption) =
        some ⟨"x", "A B", [⟨"q", "", "", [⟨"y", "", ""⟩]⟩, ⟨"r", "", "", []⟩]⟩ := by decide +kernel
  obtain ⟨k, hk, hclass⟩ := Option.bind_eq_some_iff.1 hread
  obtain ⟨d, hd, hfind⟩ := Option.bind_eq_some_iff.1 hk
  have hbody : Document.parse body = .ok d := eq_ok_of_toOption hd
  have hfirst : d.IsFirst "licenseclass" k := Document.find?_eq_some_iff.1 hfind
  have hparse := (parse_of_find? hbody hfind).trans (eq_ok_of_toOption hclass)
  exact ⟨d, k, hbody, hfirst, hparse, classParse_extracts hbody hfirst "x"⟩

end LicenseChooser
