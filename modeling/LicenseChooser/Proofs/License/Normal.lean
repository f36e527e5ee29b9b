import LicenseChooser.Proofs.Except
import LicenseChooser.Proofs.License.RoundTrip

/-!
What is read is in normal form: identifiers are not blank, and no text has white space at its ends. So
a class that was read, from whatever document, comes back as it is when it is written and read again.
-/

namespace LicenseChooser

open Markup Text

theorem trim_trim (s : String) : trim (trim s) = trim s :=
  (trim_eq_self_iff _).2 (trimmed_trim s)

theorem trim_labelText (e : Element) (name : String) :
    trim (labelText e name) = labelText e name := by
  rw [labelText]
  cases e.childText? name with
  | none => rfl
  | some s => exact trim_trim s

theorem of_requireIdentifier {e : Element} {node id : String}
    (h : requireIdentifier e node = .ok id) : trim id = id ∧ id ≠ "" := by
  rw [requireIdentifier, identifier?] at h
  cases ha : e.attribute? "id" with
  | none =>
      rw [ha] at h
      cases h
  | some value =>
      rw [ha, Option.map_some, Option.filter_some] at h
      split at h
      · rename_i found hfound
        split at hfound
        · rename_i hne
          cases h
          cases hfound
          exact ⟨trim_trim value, bne_iff_ne.1 hne⟩
        · cases hfound
      · cases h

theorem Choice.normal_of_ofElement {e : Element} {c : Choice} (h : Choice.ofElement e = .ok c) :
    c.Normal := by
  obtain ⟨id, hid, hc⟩ := exists_of_bind_eq_ok h
  cases hc
  obtain ⟨htrim, hne⟩ := of_requireIdentifier hid
  exact ⟨htrim, hne, trim_labelText e _, trim_labelText e _⟩

theorem Question.normal_of_ofElement {e : Element} {q : Question}
    (h : Question.ofElement e = .ok q) : q.Normal := by
  obtain ⟨choices, hchoices, h⟩ := exists_of_bind_eq_ok h
  obtain ⟨id, hid, hq⟩ := exists_of_bind_eq_ok h
  cases hq
  obtain ⟨htrim, hne⟩ := of_requireIdentifier hid
  refine ⟨htrim, hne, trim_labelText e _, trim_labelText e _, fun c hc => ?_⟩
  obtain ⟨option, -, hoption⟩ := exists_of_mapM_eq_ok hchoices hc
  exact Choice.normal_of_ofElement hoption

theorem LicenseClass.normal_of_ofElement {id : String} {e : Element} {l : LicenseClass}
    (h : LicenseClass.ofElement id e = .ok l) : l.id = id ∧ l.Normal := by
  obtain ⟨questions, hquestions, hl⟩ := exists_of_bind_eq_ok h
  cases hl
  refine ⟨rfl, trim_labelText e _, fun q hq => ?_⟩
  obtain ⟨field, -, hfield⟩ := exists_of_mapM_eq_ok hquestions hq
  exact Question.normal_of_ofElement hfield

theorem normal_of_classParse {id body : String} {l : LicenseClass}
    (h : LicenseClass.parse id body = .ok l) : l.id = id ∧ l.Normal := by
  obtain ⟨d, -, hd⟩ := exists_of_bind_eq_ok h
  split at hd
  · exact LicenseClass.normal_of_ofElement hd
  · cases hd

theorem parse_toXml_of_normal {l : LicenseClass} (h : l.Normal) :
    LicenseClass.parse l.id l.toXml = .ok l := by
  obtain ⟨hdefect, htrimmed⟩ := l.normal_iff.1 h
  rw [parse_toXml_eq, hdefect, htrimmed]
  rfl

def Choice.texts (c : Choice) : List String := [c.id, c.label, c.description]

def Question.texts (q : Question) : List String :=
  q.id :: q.label :: q.description :: q.choices.flatMap Choice.texts

/-- Every text that a class's document holds, the identifier of the class apart. -/
def LicenseClass.texts (l : LicenseClass) : List String :=
  l.label :: l.questions.flatMap Question.texts

theorem Choice.Normal.trimmed_texts {c : Choice} (h : c.Normal) : ∀ t ∈ c.texts, Trimmed t := by
  obtain ⟨hid, -, hlabel, hdescription⟩ := h
  simp only [texts, List.forall_mem_cons, List.not_mem_nil, false_imp_iff, implies_true, and_true,
    ← trim_eq_self_iff]
  exact ⟨hid, hlabel, hdescription⟩

theorem Question.Normal.trimmed_texts {q : Question} (h : q.Normal) : ∀ t ∈ q.texts, Trimmed t := by
  obtain ⟨hid, -, hlabel, hdescription, hchoices⟩ := h
  simp only [texts, List.forall_mem_cons, List.mem_flatMap, ← trim_eq_self_iff]
  refine ⟨hid, hlabel, hdescription, fun t ⟨c, hc, ht⟩ => ?_⟩
  exact (trim_eq_self_iff t).2 ((hchoices c hc).trimmed_texts t ht)

theorem LicenseClass.Normal.trimmed_texts {l : LicenseClass} (h : l.Normal) :
    ∀ t ∈ l.texts, Trimmed t := by
  obtain ⟨hlabel, hquestions⟩ := h
  simp only [texts, List.forall_mem_cons, List.mem_flatMap]
  refine ⟨(trim_eq_self_iff _).1 hlabel, fun t ⟨q, hq, ht⟩ => ?_⟩
  exact (hquestions q hq).trimmed_texts t ht

/-- Whatever document a class was read from, it survives being written and read again. -/
theorem classParse_stable {id body : String} {l : LicenseClass}
    (h : LicenseClass.parse id body = .ok l) :
    (∀ q ∈ l.questions, q.id ≠ "" ∧ ∀ c ∈ q.choices, c.id ≠ "") ∧
    (∀ t ∈ l.texts, Trimmed t) ∧
    LicenseClass.parse id l.toXml = .ok l := by
  obtain ⟨hid, hnormal⟩ := normal_of_classParse h
  refine ⟨fun q hq => ?_, hnormal.trimmed_texts, ?_⟩
  · obtain ⟨-, hne, -, -, hchoices⟩ := hnormal.2 q hq
    exact ⟨hne, fun c hc => (hchoices c hc).2.1⟩
  · rw [← hid]
    exact parse_toXml_of_normal hnormal

theorem classParse_stable_markup :
    let l : LicenseClass := ⟨"standard", "A &", [⟨"q", "", "", [⟨"y", "", ""⟩]⟩]⟩
    let body := "<r><x:licenseclass><label> A <b>&amp;</b><![CDATA[ ]]></label>" ++
      "<field id=' q'><enum id='y\t'/></field></x:licenseclass></r>"
    LicenseClass.parse "standard" body = .ok l ∧
    (∀ q ∈ l.questions, q.id ≠ "" ∧ ∀ c ∈ q.choices, c.id ≠ "") ∧
    (∀ t ∈ l.texts, Trimmed t) ∧
    LicenseClass.parse "standard" l.toXml = .ok l := by
  intro l body
  have h : LicenseClass.parse "standard" body = .ok l := eq_ok_of_toOption (by decide +kernel)
  exact ⟨h, classParse_stable h⟩

end LicenseChooser
