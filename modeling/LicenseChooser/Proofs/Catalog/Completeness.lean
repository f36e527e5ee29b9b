import LicenseChooser.Proofs.Catalog.Failures
import LicenseChooser.Proofs.Catalog.Retrieval

/-!
What it says of a catalog that no class of it failed. If the list was retrieved, every class on it
was retrieved and read too. But a list that could not be retrieved leaves no class to fail, and its
catalog looks like that of a service which offers none.
-/

namespace LicenseChooser

open Http Markup

namespace Client

variable (c : Client) (server : Server) (schedule : List Nat) (locale : String)

/-- The list was retrieved with this text and read, and so was every class on it that is not
excluded. -/
structure RetrievesAll (text : String) (d : Document) : Prop where
  brought : Brought ((c.tryList locale).replies server []) text
  read : Document.parse text = .ok d
  listed : c.listed server locale = d.licenseIds.filter fun id => !c.excluded.contains id
  details : ∀ (i : Nat) (id : String), (c.listed server locale)[i]? = some id → ∃ body l,
    Brought (c.received server schedule locale i) body ∧ LicenseClass.parse id body = .ok l ∧
      c.outcome server schedule locale i = some (.ok l) ∧
      l ∈ (c.catalog server schedule locale).licenses

variable {c server schedule locale}

theorem isComplete_iff_outcome :
    (c.catalog server schedule locale).isComplete = true ↔
      ∀ (i : Nat) (id : String), (c.listed server locale)[i]? = some id →
        ∃ l, c.outcome server schedule locale i = some (.ok l) ∧
          l ∈ (c.catalog server schedule locale).licenses := by
  obtain ⟨outcomes, hcatalog, hlength, houtcomes⟩ := c.results_retrieve server schedule locale
  have hsnd : ((c.listed server locale).zip outcomes).map (·.2) = outcomes :=
    List.map_snd_zip (Nat.le_of_eq hlength)
  rw [hcatalog, Catalog.isComplete_ofResults, Catalog.ofResults_eq, hsnd, List.all_eq_true]
  constructor
  · intro hall i id hid
    obtain ⟨hi, -⟩ := List.getElem?_eq_some_iff.1 hid
    obtain ⟨o, ho⟩ : ∃ o, outcomes[i]? = some o := ⟨_, List.getElem?_eq_getElem (hlength ▸ hi)⟩
    have hmem := List.mem_of_getElem? ho
    cases o with
    | error e => cases hall _ hmem
    | ok l => exact ⟨l, houtcomes i ▸ ho, List.mem_filterMap.2 ⟨_, hmem, rfl⟩⟩
  · intro h o ho
    obtain ⟨i, hi⟩ := List.mem_iff_getElem?.1 ho
    obtain ⟨hlt, -⟩ := List.getElem?_eq_some_iff.1 hi
    obtain ⟨l, hl, -⟩ := h i _ (List.getElem?_eq_getElem (hlength ▸ hlt))
    rw [← houtcomes, hi, Option.some.injEq] at hl
    rw [hl]
    rfl

theorem body_of_outcome {i : Nat} {id : String} {l : LicenseClass}
    (hid : (c.listed server locale)[i]? = some id)
    (h : c.outcome server schedule locale i = some (.ok l)) :
    ∃ body, Brought (c.received server schedule locale i) body ∧
      LicenseClass.parse id body = .ok l := by
  rw [outcome, hid] at h
  obtain ⟨taken, htaken, htakes⟩ := Dialogue.exists_takes_of_after h
  obtain ⟨body, hbody, hparse⟩ := brought_of_takes_request htakes
  exact ⟨body, hbody.mono htaken.subset, hparse⟩

theorem catalog_of_error {e : Failure} (h : ((c.tryList locale).run server []).1 = .error e) :
    c.catalog server schedule locale = ⟨[], []⟩ := by
  obtain ⟨outcomes, hcatalog, -⟩ := c.results_retrieve server schedule locale
  rw [hcatalog, listed_of_error h]
  rfl

/-- No class of the catalog failed exactly if all of them were retrieved or the list failed, which
leaves nothing in the catalog. -/
theorem isComplete_iff_retrievesAll :
    (c.catalog server schedule locale).isComplete = true ↔
      ((∃ e, ((c.tryList locale).run server []).1 = .error e) ∧
        c.catalog server schedule locale = ⟨[], []⟩) ∨
      ∃ text d, c.RetrievesAll server schedule locale text d := by
  rw [isComplete_iff_outcome]
  constructor
  · intro hall
    cases hlist : ((c.tryList locale).run server []).1 with
    | error e => exact .inl ⟨⟨e, rfl⟩, catalog_of_error hlist⟩
    | ok ids =>
        obtain ⟨text, d, htext, hread, rfl⟩ := exists_text_of_tryList hlist
        refine .inr ⟨text, d, htext, hread, listed_of_ok hlist, fun i id hid => ?_⟩
        obtain ⟨l, hl, hmem⟩ := hall i id hid
        obtain ⟨body, hbody, hparse⟩ := body_of_outcome hid hl
        exact ⟨body, l, hbody, hparse, hl, hmem⟩
  · rintro (⟨⟨e, hlist⟩, -⟩ | ⟨text, d, hall⟩)
    · rw [listed_of_error hlist]
      intro i id hid
      cases hid
    · intro i id hid
      obtain ⟨body, l, -, -, hl, hmem⟩ := hall.details i id hid
      exact ⟨l, hl, hmem⟩

/-- A service that cannot be reached has a catalog that nothing is missing from. -/
theorem isComplete_unreachable :
    ∃ root c, Url.parse "http://api.test" = .ok root ∧ Client.create (.ofRoot root) = .ok c ∧
      failureKind? ((c.tryList "en").run .unreachable []).1 = some .transport ∧
      (c.catalog .unreachable [] "en").isComplete = true := by
  let root : Url := ⟨"http", some ⟨"", none, some (.name "api.test"), none⟩, .segments [""], none,
    none⟩
  let c : Client := ⟨root, [], 5⟩
  have hparse : (Url.parse "http://api.test").toOption = some root := by decide +kernel
  have hkind : failureKind? ((c.tryList "en").run .unreachable []).1 = some .transport := by
    decide +kernel
  refine ⟨root, c, eq_ok_of_toOption hparse, rfl, hkind, ?_⟩
  cases hlist : ((c.tryList "en").run .unreachable []).1 with
  | error e =>
      rw [catalog_of_error hlist]
      rfl
  | ok ids =>
      rw [hlist] at hkind
      cases hkind

end Client

end LicenseChooser
