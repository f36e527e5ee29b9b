import LicenseChooser.Proofs.License.RoundTrip

/-!
What a document lacks for each of its readers. A reader fails with the first node that is missing and
in no other way, so whether it comes to a value is a question about the document alone.
-/

namespace LicenseChooser

open Markup Text

/-- Fails with the node that is missing, if one is, and comes to a value otherwise. -/
def Misses {α : Type} (operation : String) (missed : Option String) (x : Except Failure α) : Prop :=
  match missed with
  | some node => x = .error (.missing operation node)
  | none => ∃ a, x = .ok a

namespace Misses

variable {α β : Type} {operation : String}

theorem ok (a : α) : Misses operation none (.ok a : Except Failure α) := ⟨a, rfl⟩

theorem exists_ok_iff {x : Except Failure α} {missed : Option String}
    (hx : Misses operation missed x) : (∃ a, x = .ok a) ↔ missed = none := by
  cases missed with
  | some node =>
      obtain rfl : x = .error (.missing operation node) := hx
      simp
  | none => exact ⟨fun _ => rfl, fun _ => hx⟩

theorem eq_error_iff {x : Except Failure α} {missed : Option String}
    (hx : Misses operation missed x) {failure : Failure} :
    x = .error failure ↔ ∃ node, missed = some node ∧ failure = .missing operation node := by
  cases missed with
  | some node =>
      obtain rfl : x = .error (.missing operation node) := hx
      simp [eq_comm]
  | none =>
      obtain ⟨a, rfl⟩ := hx
      simp

theorem bind {x : Except Failure α} {f : α → Except Failure β} {missed missed' : Option String}
    (hx : Misses operation missed x) (hf : ∀ a, Misses operation missed' (f a)) :
    Misses operation (missed.or missed') (x.bind f) := by
  cases missed with
  | some node =>
      obtain rfl : x = .error (.missing operation node) := hx
      rfl
  | none =>
      obtain ⟨a, rfl⟩ := hx
      exact hf a

theorem bind_ok {x : Except Failure α} {missed : Option String} (hx : Misses operation missed x)
    (f : α → β) : Misses operation missed (x.bind fun a => .ok (f a)) := by
  rw [← Option.or_none (o := missed)]
  exact hx.bind fun a => .ok (f a)

theorem mapM {f : α → Except Failure β} {missed : α → Option String}
    (hf : ∀ x, Misses operation (missed x) (f x)) (xs : List α) :
    Misses operation (xs.findSome? missed) (xs.mapM f) := by
  induction xs with
  | nil => exact .ok []
  | cons x xs ih =>
      have hcons : (x :: xs).findSome? missed = (missed x).or (xs.findSome? missed) := by
        rw [List.findSome?_cons]
        cases missed x <;> rfl
      rw [List.mapM_cons, hcons]
      exact (hf x).bind fun y => ih.bind_ok (y :: ·)

end Misses

namespace Markup

namespace Element

/-- The value of its attribute `id`, the first one of that name, is not blank. -/
def HasIdentifier (e : Element) : Prop :=
  ∃ value, e.attribute? "id" = some value ∧ allBlank value.toList = false

def identifierDefect? (e : Element) (node : String) : Option String :=
  if (identifier? e).isNone then some node else none

def choiceDefect? (e : Element) : Option String := e.identifierDefect? "enum/@id"

/-- A defect of a choice comes before one of the question itself. -/
def questionDefect? (e : Element) : Option String :=
  ((e.childrenNamed "enum").findSome? choiceDefect?).or (e.identifierDefect? "field/@id")

theorem identifierDefect?_eq_none_iff (e : Element) (node : String) :
    e.identifierDefect? node = none ↔ e.HasIdentifier := by
  rw [identifierDefect?, HasIdentifier]
  cases ha : e.attribute? "id" with
  | none => simp [identifier?, ha]
  | some value =>
      rw [identifier?_of_id ha]
      cases hblank : allBlank value.toList <;> simp [hblank]

theorem misses_requireIdentifier (e : Element) (node : String) :
    Misses Operation.getLicense (e.identifierDefect? node) (requireIdentifier e node) := by
  rw [identifierDefect?, requireIdentifier]
  cases identifier? e with
  | none => rfl
  | some id => exact .ok id

theorem misses_choice (e : Element) :
    Misses Operation.getLicense e.choiceDefect? (Choice.ofElement e) :=
  (e.misses_requireIdentifier "enum/@id").bind_ok _

theorem misses_question (e : Element) :
    Misses Operation.getLicense e.questionDefect? (Question.ofElement e) :=
  (Misses.mapM misses_choice _).bind fun _ => (e.misses_requireIdentifier "field/@id").bind_ok _

end Element

namespace Document

/-- The first thing that a document lacks to describe a class. -/
def classDefect? (d : Document) : Option String :=
  match d.find? "licenseclass" with
  | some e => (e.childrenNamed "field").findSome? Element.questionDefect?
  | none => some "licenseclass"

/-- It has a class, of which every question and every choice has an identifier. -/
def DescribesClass (d : Document) : Prop :=
  ∃ e, d.find? "licenseclass" = some e ∧ ∀ q ∈ e.childrenNamed "field",
    q.HasIdentifier ∧ ∀ c ∈ q.childrenNamed "enum", c.HasIdentifier

def uriDefect? (d : Document) : Option String :=
  if (d.resultText? "license-uri").isNone then some "result/license-uri" else none

/-- One of its results names a license. -/
def NamesLicense (d : Document) : Prop :=
  ∃ e ∈ d.select "result" "license-uri", allBlank e.text.toList = false

theorem classDefect?_eq_none_iff (d : Document) : d.classDefect? = none ↔ d.DescribesClass := by
  rw [classDefect?, DescribesClass]
  cases d.find? "licenseclass" with
  | none => simp
  | some e =>
      simp only [List.findSome?_eq_none_iff, Element.questionDefect?, Element.choiceDefect?,
        Option.or_eq_none_iff, Element.identifierDefect?_eq_none_iff, Option.some.injEq,
        exists_eq_left', and_comm]

theorem uriDefect?_eq_none_iff (d : Document) : d.uriDefect? = none ↔ d.NamesLicense := by
  rw [uriDefect?, NamesLicense, resultText?]
  simp [trim_eq_empty_iff]

end Document
end Markup

/-- A reader of documents that fails with what is malformed, or else with what the document lacks. -/
structure Judges {α : Type} (operation : String) (defect? : Document → Option String)
    (parse : String → Except Failure α) : Prop where
  malformed : ∀ {text e}, Document.parse text = .error e →
    parse text = .error (.malformed operation e)
  read : ∀ {text d}, Document.parse text = .ok d → Misses operation (defect? d) (parse text)

section Judges

variable {α : Type} {operation : String} {defect? : Document → Option String}
  {parse : String → Except Failure α} {text : String} {d : Document}

theorem Judges.missing (h : Judges operation defect? parse) (hread : Document.parse text = .ok d)
    {node : String} (hdefect : defect? d = some node) :
    parse text = .error (.missing operation node) := by
  have hmisses := h.read hread
  rwa [hdefect] at hmisses

theorem Judges.ok (h : Judges operation defect? parse) (hread : Document.parse text = .ok d)
    (hdefect : defect? d = none) : ∃ a, parse text = .ok a := by
  have hmisses := h.read hread
  rwa [hdefect] at hmisses

end Judges

theorem readDocument_of_error {text : String} {e : DocumentError}
    (h : Document.parse text = .error e) (operation : String) :
    readDocument operation text = .error (.malformed operation e) := by
  rw [readDocument, h]
  rfl

theorem readDocument_of_ok {text : String} {d : Document} (h : Document.parse text = .ok d)
    (operation : String) : readDocument operation text = .ok d := by
  rw [readDocument, h]
  rfl

theorem judges_document (operation : String) :
    Judges operation (fun _ => none) (readDocument operation) where
  malformed h := readDocument_of_error h operation
  read h := ⟨_, readDocument_of_ok h operation⟩

/-- What is read off a document after it was read. -/
theorem Judges.bind {α : Type} {operation : String} {defect? : Document → Option String}
    {f : Document → Except Failure α} (h : ∀ d, Misses operation (defect? d) (f d)) :
    Judges operation defect? fun text => (readDocument operation text).bind f where
  malformed he := by
    rw [readDocument_of_error he]
    rfl
  read {_ d} hd := by
    rw [readDocument_of_ok hd]
    exact h d

theorem judges_licenseIds (excluded : List String) :
    Judges Operation.listLicenses (fun _ => none) (parseLicenseIds excluded) := by
  refine ⟨fun he => ?_, fun hd => ?_⟩
  · rw [parseLicenseIds, readDocument_of_error he]
    rfl
  · rw [parseLicenseIds, readDocument_of_ok hd]
    exact .ok _

theorem judges_class (id : String) :
    Judges Operation.getLicense Document.classDefect? (LicenseClass.parse id) := by
  refine .bind fun d => ?_
  rw [Document.classDefect?]
  cases d.find? "licenseclass" with
  | none => rfl
  | some e => exact (Misses.mapM Element.misses_question _).bind_ok _

theorem judges_uri : Judges Operation.resolveUri Document.uriDefect? parseLicenseUri := by
  refine .bind fun d => ?_
  rw [Document.uriDefect?]
  cases d.resultText? "license-uri" with
  | none => rfl
  | some uri => exact .ok uri

end LicenseChooser
