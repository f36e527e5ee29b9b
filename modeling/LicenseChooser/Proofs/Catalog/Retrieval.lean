import LicenseChooser.Catalog.Retrieval
import LicenseChooser.Proofs.Catalog.Requests
import LicenseChooser.Proofs.License.Identifiers
import LicenseChooser.Proofs.License.Normal

/-!
The catalog against what the requests for its classes come to. Every listed position ends up in one of
the two lists, in the order of the listing and under its own identifier, whatever the schedule.
-/

namespace LicenseChooser

open Http Markup

namespace Catalog

theorem ofResults_eq (results : List (String × ClassResult)) :
    ofResults results =
      ⟨(results.map (·.2)).filterMap Except.toOption, (results.filter (!·.2.isOk)).map (·.1)⟩ := by
  induction results with
  | nil => rfl
  | cons p rest ih =>
      obtain ⟨id, o⟩ := p
      cases o with
      | error e =>
          rw [ofResults, ih]
          rfl
      | ok l =>
          rw [ofResults, ih]
          rfl

theorem isComplete_ofResults (results : List (String × ClassResult)) :
    (ofResults results).isComplete = (results.map (·.2)).all Except.isOk := by
  induction results with
  | nil => rfl
  | cons p rest ih =>
      obtain ⟨id, o⟩ := p
      cases o with
      | error e => rfl
      | ok l => exact ih

theorem length_ofResults (results : List (String × ClassResult)) :
    (ofResults results).licenses.length + (ofResults results).failed.length = results.length := by
  induction results with
  | nil => rfl
  | cons p rest ih =>
      obtain ⟨id, o⟩ := p
      cases o <;> simp only [ofResults, List.length_cons] <;> omega

theorem ids_ofResults {results : List (String × ClassResult)}
    (h : ∀ id l, (id, .ok l) ∈ results → l.id = id) :
    (ofResults results).licenses.map (·.id) = (results.filter (·.2.isOk)).map (·.1) := by
  induction results with
  | nil => rfl
  | cons p rest ih =>
      obtain ⟨id, o⟩ := p
      have hrest := ih fun id' l hmem => h id' l (List.mem_cons_of_mem _ hmem)
      cases o with
      | error e => simpa [ofResults, Except.isOk, Except.toBool] using hrest
      | ok l =>
          have hid : l.id = id := h id l List.mem_cons_self
          simpa [ofResults, Except.isOk, Except.toBool, hid] using hrest

end Catalog

/-- A request that comes to a value has read it in a body. -/
theorem body_of_request {α : Type} {operation : String} {method : Method}
    {url : Except Failure Url} {parts : List Part} {parse : String → Except Failure α}
    {replies : List Reply} {a : α}
    (h : (request operation method url parts parse).after replies = some (.ok a)) :
    ∃ body, parse body = .ok a := by
  cases url with
  | error e => simp [request, Dialogue.after] at h
  | ok url =>
      rw [request, Dialogue.after_map, Option.map_eq_some_iff] at h
      obtain ⟨sent, -, hbody⟩ := h
      obtain ⟨body, -, hparse⟩ := exists_of_bind_eq_ok hbody
      exact ⟨body, hparse⟩

namespace Client

variable (c : Client) (server : Server) (schedule : List Nat) (locale : String)

/-- The identifiers that the list request gives, none if it fails. -/
def listed : List String := ((c.list locale).run server []).1.1

/-- The replies to the request for the class at a position of the list. -/
def received (i : Nat) : List Reply :=
  Interleaving.received server i schedule
    (.start c.permits ((c.list locale).run server []).2 ((c.listed server locale).map c.tryGet))

/-- What the request for the class at a position of the list comes to. -/
def outcome (i : Nat) : Option ClassResult :=
  (c.listed server locale)[i]?.bind fun id =>
    (c.tryGet id).after (c.received server schedule locale i)

def catalog : Catalog := (c.retrieve server schedule locale).catalog

variable {c server locale} in
theorem listed_of_error {e : Failure} (h : ((c.tryList locale).run server []).1 = .error e) :
    c.listed server locale = [] := by
  rw [listed, list, Dialogue.run_map, h]
  rfl

variable {c server locale} in
theorem listed_of_ok {ids : List String} (h : ((c.tryList locale).run server []).1 = .ok ids) :
    c.listed server locale = ids := by
  rw [listed, list, Dialogue.run_map, h]
  rfl

variable {c server locale} in
/-- The list is what the document brought for it says, less what is excluded. -/
theorem exists_text_of_tryList {ids : List String}
    (h : ((c.tryList locale).run server []).1 = .ok ids) :
    ∃ text d, Brought ((c.tryList locale).replies server []) text ∧
      Document.parse text = .ok d ∧
      ids = d.licenseIds.filter fun id => !c.excluded.contains id := by
  have htakes := Dialogue.takes_replies server (c.tryList locale) []
  rw [h, tryList] at htakes
  obtain ⟨text, htext, hids⟩ := brought_of_takes_request htakes
  obtain ⟨d, hread, rfl⟩ := exists_of_parseLicenseIds hids
  exact ⟨text, d, htext, hread, rfl⟩

theorem not_mem_excluded_of_listed {id : String} (h : id ∈ c.listed server locale) :
    id ∉ c.excluded := by
  cases hlist : ((c.tryList locale).run server []).1 with
  | error e =>
      rw [listed_of_error hlist] at h
      cases h
  | ok ids =>
      obtain ⟨text, d, -, -, rfl⟩ := exists_text_of_tryList hlist
      rw [listed_of_ok hlist] at h
      simpa using (List.mem_filter.1 h).2

theorem results_retrieve :
    ∃ outcomes : List ClassResult,
      c.catalog server schedule locale =
        .ofResults ((c.listed server locale).zip outcomes) ∧
      outcomes.length = (c.listed server locale).length ∧
      ∀ i : Nat, outcomes[i]? = c.outcome server schedule locale i := by
  refine ⟨_, rfl, ?_, fun i => ?_⟩
  · rw [Interleaving.length_run, List.length_map]
    rfl
  · rw [Interleaving.result_run, List.getElem?_map, Option.bind_map]
    rfl

/-- The schedule, and what the server replies to whom, show in the outcomes alone. -/
theorem catalog_congr {server' : Server} {schedule' : List Nat}
    (hlisted : c.listed server' locale = c.listed server locale)
    (houtcome : ∀ i, c.outcome server' schedule' locale i = c.outcome server schedule locale i) :
    c.catalog server' schedule' locale = c.catalog server schedule locale := by
  obtain ⟨outcomes, hcatalog, -, houtcomes⟩ := c.results_retrieve server schedule locale
  obtain ⟨outcomes', hcatalog', -, houtcomes'⟩ := c.results_retrieve server' schedule' locale
  have hsame : outcomes' = outcomes := by
    apply List.ext_getElem?
    intro i
    rw [houtcomes', houtcomes, houtcome]
  rw [hcatalog', hcatalog, hlisted, hsame]

theorem id_of_outcome {outcomes : List ClassResult}
    (h : ∀ i : Nat, outcomes[i]? = c.outcome server schedule locale i) {id : String}
    {l : LicenseClass} (hmem : (id, .ok l) ∈ (c.listed server locale).zip outcomes) :
    l.id = id := by
  obtain ⟨i, hi⟩ := List.mem_iff_getElem?.1 hmem
  obtain ⟨hid, hl⟩ := List.getElem?_zip_eq_some.1 hi
  have hafter : (c.tryGet id).after (c.received server schedule locale i) = some (.ok l) := by
    have houtcome := h i
    rw [hl, outcome, hid] at houtcome
    exact houtcome.symm
  obtain ⟨body, hbody⟩ := body_of_request hafter
  exact (normal_of_classParse hbody).1

/-- The listed identifiers, which are those of the document brought for the list less the excluded
ones, and the outcomes by position make up the catalog, whatever the schedule. -/
theorem retrieve_catalog :
    ∃ outcomes : List ClassResult,
      (∀ ids, ((c.tryList locale).run server []).1 = .ok ids → c.listed server locale = ids ∧
        ∃ text d, Brought ((c.tryList locale).replies server []) text ∧
          Document.parse text = .ok d ∧
          ids = d.licenseIds.filter fun id => !c.excluded.contains id) ∧
      outcomes.length = (c.listed server locale).length ∧
      (∀ i : Nat, outcomes[i]? = c.outcome server schedule locale i) ∧
      (∀ server' schedule', c.listed server' locale = c.listed server locale →
        (∀ i, c.outcome server' schedule' locale i = c.outcome server schedule locale i) →
          c.catalog server' schedule' locale = c.catalog server schedule locale) ∧
      c.catalog server schedule locale =
        ⟨outcomes.filterMap Except.toOption,
          (((c.listed server locale).zip outcomes).filter (!·.2.isOk)).map (·.1)⟩ ∧
      (c.catalog server schedule locale).licenses.map (·.id) =
        (((c.listed server locale).zip outcomes).filter (·.2.isOk)).map (·.1) ∧
      (c.catalog server schedule locale).licenses.length +
        (c.catalog server schedule locale).failed.length = (c.listed server locale).length ∧
      (∀ id ∈ c.excluded, id ∉ (c.catalog server schedule locale).failed ∧
        id ∉ (c.catalog server schedule locale).licenses.map (·.id)) ∧
      ((c.catalog server schedule locale).isComplete = true ↔ ∀ o ∈ outcomes, o.isOk = true) := by
  obtain ⟨outcomes, hcatalog, hlength, houtcomes⟩ := c.results_retrieve server schedule locale
  have hsnd : ((c.listed server locale).zip outcomes).map (·.2) = outcomes :=
    List.map_snd_zip (Nat.le_of_eq hlength)
  have hids := Catalog.ids_ofResults fun id l => c.id_of_outcome server schedule locale houtcomes
  have hlisted : ∀ {keep : String × ClassResult → Bool} {id : String},
      id ∈ (((c.listed server locale).zip outcomes).filter keep).map (·.1) → id ∉ c.excluded := by
    intro keep id hid
    obtain ⟨p, hp, rfl⟩ := List.mem_map.1 hid
    exact c.not_mem_excluded_of_listed server locale (List.of_mem_zip (List.mem_filter.1 hp).1).1
  refine ⟨outcomes, ?_, hlength, houtcomes, ?_, ?_, ?_, ?_, ?_, ?_⟩
  · exact fun ids hids => ⟨listed_of_ok hids, exists_text_of_tryList hids⟩
  · intro server' schedule' hlisted' houtcome
    exact c.catalog_congr server schedule locale hlisted' houtcome
  · rw [hcatalog, Catalog.ofResults_eq, hsnd]
  · rw [hcatalog, hids]
  · rw [hcatalog, Catalog.length_ofResults, List.length_zip, hlength, Nat.min_self]
  · intro id hid
    rw [hcatalog, hids, Catalog.ofResults_eq]
    exact ⟨fun h => hlisted h hid, fun h => hlisted h hid⟩
  · rw [hcatalog, Catalog.isComplete_ofResults, hsnd, List.all_eq_true]

end Client

end LicenseChooser
