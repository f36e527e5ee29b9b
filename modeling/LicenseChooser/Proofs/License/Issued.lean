import LicenseChooser.Proofs.License.Defects
import LicenseChooser.Proofs.Markup.Selection

/-!
What is read off the results of a document. Of all texts of one name the first that is not blank is
chosen, and a blank one hides none that follows. A license without a name is called by its URI, so
whatever has a URI has a name.
-/

namespace LicenseChooser

open Markup Text

namespace Markup

/-- The text of the first of these elements that is not blank, trimmed, if there is one. -/
inductive FirstText : List Element → Option String → Prop
  | found {before after : List Element} {e : Element}
      (hbefore : ∀ x ∈ before, allBlank x.text.toList = true) (h : allBlank e.text.toList = false) :
      FirstText (before ++ e :: after) (some (trim e.text))
  | absent {es : List Element} (h : ∀ x ∈ es, allBlank x.text.toList = true) : FirstText es none

theorem firstText_find? (es : List Element) :
    FirstText es ((es.map fun e => trim e.text).find? (· != "")) := by
  rw [List.find?_map]
  cases hfound : es.find? ((· != "") ∘ fun e => trim e.text) with
  | none =>
      refine .absent fun x hx => ?_
      have hblank := List.find?_eq_none.1 hfound x hx
      simpa [trim_eq_empty_iff] using hblank
  | some e =>
      obtain ⟨he, before, after, rfl, hbefore⟩ := List.find?_eq_some_iff_append.1 hfound
      refine .found (fun x hx => ?_) ?_
      · simpa [trim_eq_empty_iff] using hbefore x hx
      · simpa [trim_eq_empty_iff] using he

theorem FirstText.exists_iff {es : List Element} {value : Option String} (h : FirstText es value) :
    (∃ u, value = some u) ↔ ∃ e ∈ es, allBlank e.text.toList = false := by
  cases h with
  | @found before after e _ he => exact ⟨fun _ => ⟨e, by simp, he⟩, fun _ => ⟨_, rfl⟩⟩
  | absent hall => simpa using hall

theorem FirstText.eq_trim {es : List Element} {u : String} (h : FirstText es (some u)) :
    u ≠ "" ∧ ∃ e ∈ es, allBlank e.text.toList = false ∧ u = trim e.text := by
  cases h with
  | @found before after e _ he =>
      refine ⟨fun hempty => ?_, e, by simp, he, rfl⟩
      rw [(trim_eq_empty_iff e.text).1 hempty] at he
      cases he

namespace Document

/-- What is chosen of the texts that the children of this name of results have: in the order of
selection, and hence in document order where no result is inside another one. -/
structure Chooses (d : Document) (name : String) (value : Option String) : Prop where
  selected : FirstText (d.select "result" name) value
  exists_iff : (∃ u, value = some u) ↔
    ∃ e ∈ d.offspring "result" name, allBlank e.text.toList = false
  eq_trim : ∀ u, value = some u → u ≠ "" ∧
    ∃ e ∈ d.offspring "result" name, allBlank e.text.toList = false ∧ u = trim e.text
  first : d.Apart "result" → FirstText (d.offspring "result" name) value

theorem chooses_resultText? (d : Document) (name : String) : d.Chooses name (d.resultText? name) := by
  have hfirst : FirstText (d.select "result" name) (d.resultText? name) := firstText_find? _
  have hsame : ∀ e, e ∈ d.select "result" name ↔ e ∈ d.offspring "result" name := fun e =>
    (d.select_perm "result" name).mem_iff
  refine ⟨hfirst, ?_, fun u hu => ?_, fun hapart => ?_⟩
  · simpa only [hsame] using hfirst.exists_iff
  · rw [hu] at hfirst
    simpa only [hsame] using hfirst.eq_trim
  · rwa [select_of_apart hapart] at hfirst

theorem Chooses.eq_none_iff {d : Document} {name : String} {value : Option String}
    (h : d.Chooses name value) :
    value = none ↔ ∀ e ∈ d.offspring "result" name, allBlank e.text.toList = true := by
  cases value with
  | none => simpa using h.exists_iff
  | some u =>
      obtain ⟨-, e, he, htext, -⟩ := h.eq_trim u rfl
      refine ⟨nofun, fun hblank => ?_⟩
      rw [hblank e he] at htext
      cases htext

end Document

end Markup

theorem toOption_parseLicenseUri {body : String} {d : Document} (h : Document.parse body = .ok d) :
    (parseLicenseUri body).toOption = d.resultText? "license-uri" := by
  rw [parseLicenseUri, readDocument_of_ok h]
  simp only [bind, Except.bind]
  cases d.resultText? "license-uri" <;> rfl

/-- The URI is chosen among those of the results, and the name among their names; if these are all
blank the name is the URI. -/
theorem resultTexts_chosen {body : String} {d : Document} (hbody : Document.parse body = .ok d) :
    d.Chooses "license-uri" (parseLicenseUri body).toOption ∧
    ((∃ e ∈ d.offspring "result" "license-name", allBlank e.text.toList = false) →
      d.Chooses "license-name" d.licenseName?) ∧
    ((∀ e ∈ d.offspring "result" "license-name", allBlank e.text.toList = true) →
      d.licenseName? = (parseLicenseUri body).toOption) ∧
    (d.licenseName? = none ↔
      (∀ e ∈ d.offspring "result" "license-name", allBlank e.text.toList = true) ∧
      ∀ e ∈ d.offspring "result" "license-uri", allBlank e.text.toList = true) ∧
    ∀ u, parseLicenseUri body = .ok u → ∃ name, d.licenseName? = some name := by
  have hname := d.chooses_resultText? "license-name"
  have huri := d.chooses_resultText? "license-uri"
  rw [toOption_parseLicenseUri hbody, Document.licenseName?]
  refine ⟨huri, fun hsome => ?_, fun hblank => ?_, ?_, fun u hu => ?_⟩
  · obtain ⟨name, hchosen⟩ := hname.exists_iff.2 hsome
    rw [hchosen] at hname ⊢
    exact hname
  · rw [hname.eq_none_iff.2 hblank, Option.none_or]
  · rw [Option.or_eq_none_iff, hname.eq_none_iff, huri.eq_none_iff]
  · rw [← toOption_eq_some_iff, toOption_parseLicenseUri hbody] at hu
    rw [hu]
    cases d.resultText? "license-name" with
    | none => exact ⟨u, rfl⟩
    | some name => exact ⟨name, rfl⟩

/-- Blank texts hide none that follows, and one that is no child of a result does not count. -/
theorem resultTexts_chosen_unnamed :
    let body := "<r><result><license-uri> </license-uri><license-uri><![CDATA[\t]]></license-uri>" ++
      "<x:license-uri> u <b>v</b></x:license-uri><license-uri>w</license-uri></result>" ++
      "<license-name>n</license-name></r>"
    ∃ d, Document.parse body = .ok d ∧ parseLicenseUri body = .ok "u v" ∧
      d.licenseName? = some "u v" ∧
      d.Chooses "license-uri" (parseLicenseUri body).toOption ∧
      ((∃ e ∈ d.offspring "result" "license-name", allBlank e.text.toList = false) →
        d.Chooses "license-name" d.licenseName?) ∧
      ((∀ e ∈ d.offspring "result" "license-name", allBlank e.text.toList = true) →
        d.licenseName? = (parseLicenseUri body).toOption) ∧
      (d.licenseName? = none ↔
        (∀ e ∈ d.offspring "result" "license-name", allBlank e.text.toList = true) ∧
        ∀ e ∈ d.offspring "result" "license-uri", allBlank e.text.toList = true) ∧
      ∀ u, parseLicenseUri body = .ok u → ∃ name, d.licenseName? = some name := by
  intro body
  have hread : (Document.parse body).toOption.map
      (fun d => (d.resultText? "license-uri", d.licenseName?)) = some (some "u v", some "u v") := by
    decide +kernel
  obtain ⟨d, hd, hboth⟩ := Option.map_eq_some_iff.1 hread
  obtain ⟨huri, hname⟩ := Prod.mk.inj hboth
  have hbody : Document.parse body = .ok d := eq_ok_of_toOption hd
  have hparse : (parseLicenseUri body).toOption = some "u v" :=
    (toOption_parseLicenseUri hbody).trans huri
  exact ⟨d, hbody, eq_ok_of_toOption hparse, hname, resultTexts_chosen hbody⟩

end LicenseChooser
