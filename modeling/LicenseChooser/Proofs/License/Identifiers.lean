import LicenseChooser.Proofs.License.Defects
import LicenseChooser.Proofs.Markup.Selection

/-!
The identifiers of elements, and the list of classes as it is read off a document: each `license` that
is a child of a `licenses` is listed once, unless its identifier is blank. Exclusions take their
identifiers out of the list and change nothing else, so it is the same in how many steps they are made.
-/

namespace LicenseChooser

open Markup Text

namespace Markup

namespace Element

/-- Its first attribute of this name has this value. -/
def Carries (e : Element) (name value : String) : Prop :=
  ∃ before after, e.attributes = before ++ (name, value) :: after ∧ ∀ a ∈ before, a.1 ≠ name

/-- The value of its first attribute `id` is this identifier when it is trimmed, and not blank. -/
def Identifies (e : Element) (id : String) : Prop :=
  ∃ value, e.Carries "id" value ∧ allBlank value.toList = false ∧ id = trim value

theorem attribute?_eq_some_iff {e : Element} {name value : String} :
    e.attribute? name = some value ↔ e.Carries name value := by
  rw [attribute?, List.lookup_eq_some_iff, Carries]
  simp only [bne_iff_ne, ne_eq, @eq_comm _ name]

theorem identifier?_eq_some_iff {e : Element} {id : String} :
    identifier? e = some id ↔ e.Identifies id := by
  simp only [Identifies, ← attribute?_eq_some_iff]
  cases ha : e.attribute? "id" with
  | none => simp [identifier?, ha]
  | some value =>
      rw [identifier?_of_id ha]
      cases hblank : allBlank value.toList <;> simp [hblank, @eq_comm _ id]

theorem Identifies.trimmed {e : Element} {id : String} (h : e.Identifies id) :
    Trimmed id ∧ id ≠ "" := by
  obtain ⟨value, -, hblank, rfl⟩ := h
  refine ⟨trimmed_trim value, fun hempty => ?_⟩
  rw [(trim_eq_empty_iff value).1 hempty] at hblank
  cases hblank

end Element

/-- The identifiers of elements in their order. An element without one leaves nothing. -/
inductive Identified : List Element → List String → Prop
  | nil : Identified [] []
  | named {e : Element} {es : List Element} {id : String} {ids : List String}
      (h : e.Identifies id) (hrest : Identified es ids) : Identified (e :: es) (id :: ids)
  | unnamed {e : Element} {es : List Element} {ids : List String}
      (h : ∀ id, ¬ e.Identifies id) (hrest : Identified es ids) : Identified (e :: es) ids

theorem identified_filterMap (es : List Element) : Identified es (es.filterMap identifier?) := by
  induction es with
  | nil => exact .nil
  | cons e es ih =>
      rw [List.filterMap_cons]
      cases hid : identifier? e with
      | none =>
          refine .unnamed (fun id h => ?_) ih
          rw [Element.identifier?_eq_some_iff.2 h] at hid
          cases hid
      | some id => exact .named (Element.identifier?_eq_some_iff.1 hid) ih

end Markup

theorem parseLicenseIds_of_parse {body : String} {d : Document} (h : Document.parse body = .ok d)
    (excluded : List String) :
    parseLicenseIds excluded body = .ok (d.licenseIds.filter (· ∉ excluded)) := by
  rw [parseLicenseIds, readDocument_of_ok h]
  simp [Except.map]

theorem exists_of_parseLicenseIds {excluded ids : List String} {text : String}
    (h : parseLicenseIds excluded text = .ok ids) :
    ∃ d, Document.parse text = .ok d ∧
      ids = d.licenseIds.filter fun id => !excluded.contains id := by
  rw [parseLicenseIds] at h
  cases hread : Document.parse text with
  | error e =>
      rw [readDocument_of_error hread] at h
      cases h
  | ok d =>
      rw [readDocument_of_ok hread] at h
      cases h
      exact ⟨d, rfl, rfl⟩

/-- How a text is read as a list of classes, whatever is excluded. -/
structure ListsClasses (body : String) : Prop where
  fails : ∀ excluded, (∃ failure, parseLicenseIds excluded body = .error failure) ↔
    ∃ e, Document.parse body = .error e
  removes : ∀ excluded, parseLicenseIds excluded body =
    (parseLicenseIds [] body).map fun ids => ids.filter (· ∉ excluded)
  inSteps : ∀ first second both : List String, (∀ id, id ∈ both ↔ id ∈ first ∨ id ∈ second) →
    parseLicenseIds both body = (parseLicenseIds first body).map fun ids => ids.filter (· ∉ second)
  trimmed : ∀ excluded ids, parseLicenseIds excluded body = .ok ids →
    ∀ id ∈ ids, Trimmed id ∧ id ≠ ""
  follows : ∀ d, Document.parse body = .ok d → ∃ ids listed,
    parseLicenseIds [] body = .ok ids ∧
    Identified (d.offspring "licenses" "license") listed ∧
    ids.Perm listed ∧ (d.Apart "licenses" → ids = listed)

theorem trimmed_of_mem_licenseIds {d : Document} {id : String} (h : id ∈ d.licenseIds) :
    Trimmed id ∧ id ≠ "" := by
  obtain ⟨e, -, hid⟩ := List.mem_filterMap.1 h
  exact (Element.identifier?_eq_some_iff.1 hid).trimmed

/-- Every text is read as a list of classes, or not at all. -/
theorem parseLicenseIds_lists (body : String) : ListsClasses body := by
  cases hparse : Document.parse body with
  | error e =>
      have hfails := fun excluded => (judges_licenseIds excluded).malformed hparse
      refine ⟨fun excluded => ?_, fun excluded => ?_, fun first second both _ => ?_, ?_, ?_⟩
      · simp [hfails, hparse]
      · rw [hfails, hfails]
        rfl
      · rw [hfails, hfails]
        rfl
      · simp [hfails]
      · simp [hparse]
  | ok d =>
      have hreads := parseLicenseIds_of_parse hparse
      refine ⟨fun excluded => ?_, fun excluded => ?_, fun first second both hboth => ?_,
        fun excluded ids hids id hid => ?_, fun d' hd' => ?_⟩
      · simp [hreads, hparse]
      · rw [hreads, hreads]
        simp [Except.map]
      · rw [hreads, hreads, Except.map, List.filter_filter]
        simp [hboth, Bool.and_comm]
      · rw [hreads, Except.ok.injEq] at hids
        rw [← hids] at hid
        exact trimmed_of_mem_licenseIds (List.mem_of_mem_filter hid)
      · rw [hparse, Except.ok.injEq] at hd'
        subst hd'
        refine ⟨d.licenseIds, _, ?_, identified_filterMap _, ?_, fun hapart => ?_⟩
        · rw [hreads]
          simp
        · exact (d.select_perm "licenses" "license").filterMap identifier?
        · rw [Document.licenseIds, Document.select_of_apart hapart]

/-- Prefixes of names do not count, and an entry that is no child of the list is none. -/
theorem parseLicenseIds_lists_wrapped :
    let body := "<r><x:licenses><license x:id='a\t' id='b'/><license id=' '/>" ++
      "<w><license id='c'/></w><x:license id='a'/></x:licenses><licenses><license id='d'/>" ++
      "</licenses></r>"
    parseLicenseIds [] body = .ok ["a", "a", "d"] ∧ parseLicenseIds ["a", "c"] body = .ok ["d"] ∧
    ListsClasses body := by
  intro body
  have hread : (Document.parse body).toOption.map (·.licenseIds) = some ["a", "a", "d"] := by
    decide +kernel
  obtain ⟨d, hd, hids⟩ := Option.map_eq_some_iff.1 hread
  have hreads := parseLicenseIds_of_parse (eq_ok_of_toOption hd)
  rw [hids] at hreads
  exact ⟨hreads [], hreads ["a", "c"], parseLicenseIds_lists body⟩

end LicenseChooser
