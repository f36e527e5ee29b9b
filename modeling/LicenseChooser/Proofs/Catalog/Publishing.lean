import LicenseChooser.Proofs.Catalog.Addresses
import LicenseChooser.Proofs.Catalog.Retrieval
import LicenseChooser.Proofs.Markup.Traversal

/-!
Classes that are published and retrieved. From a server that names them in its list and has the
document of each at its URL they come back as they are, less the excluded ones; and because no two of
these URLs are the same, any classes with identifiers of their own can be published so.
-/

namespace LicenseChooser

open Http Markup Text Url

/-- The document is a list of classes and names these, in order. -/
structure Markup.Document.Lists (d : Document) (ids : List String) : Prop where
  root : d.root.name = "licenses"
  entries : (d.root.childrenNamed "license").map (·.attribute? "id") = ids.map some
  alone : ∀ e ∈ d.root.content.preorder, e.name ≠ "licenses"

/-- A class that can be published: it is in normal form, and its identifier can be told from a list
and from a URL. -/
structure LicenseClass.Publishable (l : LicenseClass) : Prop where
  normal : l.Normal
  segment : IsSegment l.id
  trimmed : trim l.id = l.id
  nonempty : l.id ≠ ""

/-- The server answers the request for the list with a document that names these classes, and the
request for each of them that is not excluded with its document. -/
structure Http.Server.Publishes (server : Server) (c : Client) (locale : String)
    (classes : List LicenseClass) : Prop where
  list : ∃ url text d, c.listUrl locale = .ok url ∧ server.Serves url text ∧
    Document.parse text = .ok d ∧ d.Lists (classes.map (·.id))
  details : ∀ l ∈ classes, l.id ∉ c.excluded →
    ∃ url, c.licenseUrl l.id = .ok url ∧ server.Serves url l.toXml

namespace Markup.Document

theorem select_of_lists {d : Document} {ids : List String} (h : d.Lists ids) :
    d.select "licenses" "license" = d.root.childrenNamed "license" := by
  have hbelow : d.root.content.preorder.filter (·.name == "licenses") = [] := by
    rw [List.filter_eq_nil_iff]
    intro e he hname
    exact h.alone e he (beq_iff_eq.1 hname)
  rw [select, descendants, Element.descendants_eq_preorder,
    List.filter_cons, if_pos (beq_iff_eq.2 h.root), hbelow, List.flatMap_singleton]

theorem licenseIds_of_lists {d : Document} {ids : List String} (h : d.Lists ids)
    (hids : ∀ id ∈ ids, trim id = id ∧ id ≠ "") : d.licenseIds = ids := by
  have hread : ∀ id ∈ ids, ((some id).map trim).filter (· != "") = some id := by
    intro id hid
    obtain ⟨htrim, hne⟩ := hids id hid
    rw [Option.map_some, htrim, Option.filter_some, if_pos (bne_iff_ne.2 hne)]
  calc d.licenseIds
      = (((d.root.childrenNamed "license").map (·.attribute? "id")).map
          fun value => (value.map trim).filter (· != "")).filterMap id := by
        rw [licenseIds, select_of_lists h, List.map_map, List.filterMap_map]
        rfl
    _ = (ids.map some).filterMap id := by
        rw [h.entries, List.map_map]
        simp only [Function.comp_def, List.map_congr_left hread]
    _ = ids := by
        rw [List.filterMap_map]
        exact List.filterMap_some

end Markup.Document

/-- One entry of a list, with nothing but the identifier. -/
def listEntry (id : String) (rest : Source) : Source :=
  .element "license" [("id", id)] true .nil rest

def listing (ids : List String) : Source :=
  .element "licenses" [] false (.ofList (ids.map listEntry)) .nil

theorem content_listEntry (id : String) (rest : Source) :
    (listEntry id rest).content = .cons ⟨"license", [("id", id)], .nil⟩ rest.content := by
  simp (disch := decide) only [listEntry, Source.content, List.map_cons, List.map_nil,
    shownName_toList]
  rfl

theorem wellFormed_listEntry (id : String) {rest : Source} (h : rest.WellFormed) :
    (listEntry id rest).WellFormed :=
  ⟨by decide, by simp; decide, by simp, trivial, h⟩

theorem parse_listing (ids : List String) :
    Document.parse (listing ids).toXml =
      .ok ⟨⟨"licenses", [], .ofElements (ids.map fun id => ⟨"license", [("id", id)], .nil⟩)⟩⟩ := by
  have hcontent := Source.content_ofList ids fun id _ => content_listEntry id
  have hwell : (listing ids).WellFormed :=
    ⟨by decide, by simp, by simp,
      Source.wellFormed_ofList ids fun id _ _ => wellFormed_listEntry id, trivial⟩
  rw [listing, Document.parse_toXml hwell, hcontent]
  simp (disch := decide) only [List.map_nil, shownName_toList]

theorem exists_parse_listing (ids : List String) :
    ∃ d, Document.parse (listing ids).toXml = .ok d ∧ d.Lists ids := by
  have helements : ∀ e ∈ ids.map fun id => Element.mk "license" [("id", id)] .nil,
      e.name = "license" ∧ e.content = .nil := by
    intro e he
    obtain ⟨id, -, rfl⟩ := List.mem_map.1 he
    exact ⟨rfl, rfl⟩
  refine ⟨_, parse_listing ids, rfl, ?_, fun e he => ?_⟩
  · rw [Element.childrenNamed, Element.children, Content.elements_ofElements,
      List.filter_eq_self.2 fun e he => beq_iff_eq.2 (helements e he).1, List.map_map]
    rfl
  · rw [Content.preorder_eq_flatMap, Content.elements_ofElements, List.mem_flatMap] at he
    obtain ⟨entry, hentry, he⟩ := he
    obtain ⟨hname, hcontent⟩ := helements entry hentry
    rw [hcontent, Content.preorder, List.mem_singleton] at he
    rw [he, hname]
    decide

theorem head?_toXml (name : String) (attributes : List (String × String)) (short : Bool)
    (inside rest : Source) :
    (Source.element name attributes short inside rest).toXml.toList.head? = some '<' := by
  rw [Source.toXml, String.toList_ofList, Source.print]
  rfl

/-- The pages of a server that publishes classes: their list, and one for each of them. -/
def pages (listUrl : Url) (classUrl : LicenseClass → Url) (classes : List LicenseClass) :
    List (String × String) :=
  (listUrl.wire, (listing (classes.map (·.id))).toXml) ::
    classes.map fun l => ((classUrl l).wire, l.toXml)

theorem Catalog.ofResults_map_ok (classes : List LicenseClass) :
    ofResults (classes.map fun l => (l.id, .ok l)) = ⟨classes, []⟩ := by
  induction classes with
  | nil => rfl
  | cons l classes ih => rw [List.map_cons, ofResults, ih]

namespace Http.Server

variable {server : Server} {url : Url} {text : String}

theorem Serves.ensures_send (h : server.Serves url text) (operation : String) :
    (send operation .get url []).Ensures server (· = .ok text) := by
  refine h.ensures.map ?_
  rintro o ⟨response, rfl, hbrings⟩
  simp only [hbrings.success, hbrings.complete, hbrings.text]
  rfl

theorem Serves.ensures_request {α : Type} (h : server.Serves url text) (operation : String)
    (parse : String → Except Failure α) :
    (request operation .get (.ok url) [] parse).Ensures server (· = parse text) := by
  refine (h.ensures_send operation).map ?_
  rintro o rfl
  rfl

end Http.Server

namespace Client

section Retrieval

variable {c : Client} {server : Server} {locale : String} {classes : List LicenseClass}
  (hserver : server.Publishes c locale classes) (hclasses : ∀ l ∈ classes, l.Publishable)
include hserver hclasses

theorem listed_of_publishes :
    c.listed server locale =
      (classes.filter fun l => !c.excluded.contains l.id).map (·.id) := by
  obtain ⟨url, text, d, hurl, hserves, hparse, hlists⟩ := hserver.list
  have hids : d.licenseIds = classes.map (·.id) := by
    refine Document.licenseIds_of_lists hlists fun id hid => ?_
    obtain ⟨l, hl, rfl⟩ := List.mem_map.1 hid
    exact ⟨(hclasses l hl).trimmed, (hclasses l hl).nonempty⟩
  have hread : parseLicenseIds c.excluded text =
      .ok ((classes.filter fun l => !c.excluded.contains l.id).map (·.id)) := by
    have hfilter : d.licenseIds.filter (fun id => !c.excluded.contains id) =
        (classes.filter fun l => !c.excluded.contains l.id).map (·.id) := by
      rw [hids, List.filter_map]
      rfl
    rw [parseLicenseIds, readDocument, hparse, ← hfilter]
    rfl
  have hrun := (hserves.ensures_request Operation.listLicenses (parseLicenseIds c.excluded)).run []
  rw [listed, list, Dialogue.run_map, tryList, hurl, hrun, hread]
  rfl

theorem ensures_tryGet {l : LicenseClass} (hl : l ∈ classes) (hkept : l.id ∉ c.excluded) :
    (c.tryGet l.id).Ensures server (· = .ok l) := by
  obtain ⟨url, hurl, hserves⟩ := hserver.details l hl hkept
  rw [tryGet, hurl, ← parse_toXml_of_normal (hclasses l hl).normal]
  exact hserves.ensures_request _ _

theorem catalog_of_publishes (schedule : List Nat) :
    c.catalog server schedule locale =
      ⟨classes.filter fun l => !c.excluded.contains l.id, []⟩ := by
  have hlisted := listed_of_publishes hserver hclasses
  have hensures : ∀ l ∈ classes.filter fun l => !c.excluded.contains l.id,
      (c.tryGet l.id).Ensures server (· = .ok l) := by
    intro l hl
    obtain ⟨hmem, hkept⟩ := List.mem_filter.1 hl
    exact ensures_tryGet hserver hclasses hmem (by simpa using hkept)
  have hresults := Interleaving.results_run_map hensures c.permits schedule
    ((c.list locale).run server []).2
  calc c.catalog server schedule locale
      = .ofResults ((c.listed server locale).zip (Interleaving.run server c.permits schedule
          ((c.list locale).run server []).2 ((c.listed server locale).map c.tryGet)).results) := rfl
    _ = .ofResults ((classes.filter fun l => !c.excluded.contains l.id).map
          fun l => (l.id, .ok l)) := by
        rw [hlisted, List.map_map]
        exact congrArg Catalog.ofResults ((congrArg (List.zip _) hresults).trans List.zip_map')
    _ = _ := Catalog.ofResults_map_ok _

end Retrieval

section Publishing

variable {c : Client} {base : List String} (hroot : c.root.IsRoot base)
include hroot

theorem listUrl_eq (locale : String) :
    ∃ query, c.listUrl locale = .ok { c.root with
      query := some query, path := .segments (base ++ [""]) } := by
  have hurl := hroot.endpoint_eq Operation.listLicenses (by decide : IsSegment "")
    (List.forall_mem_nil _) (absurd rfl)
  rw [listUrl, hurl]
  exact ⟨_, rfl⟩

theorem wire_listUrl_ne {locale id : String} {url url' : Url} (hid : IsSegment id)
    (hurl : c.listUrl locale = .ok url) (hurl' : c.licenseUrl id = .ok url') :
    url.wire ≠ url'.wire := by
  obtain ⟨query, hlist⟩ := listUrl_eq hroot locale
  rw [hlist, Except.ok.injEq] at hurl
  rw [wire_licenseUrl hroot hid hurl', ← hurl, hroot.wire_eq (some query) fun h => absurd rfl h]
  intro h
  -- below the same path one goes on with a query and the other with a word
  rw [String.append_assoc, @String.append_assoc _ "/license/", String.append_right_inj] at h
  have hmark : ("/?" ++ query).toList[1]? = ("/license/" ++ segmentForm id).toList[1]? :=
    congrArg (fun s : String => s.toList[1]?) h
  rw [String.toList_append, String.toList_append] at hmark
  cases hmark

theorem nodup_pages {locale : String} {listUrl : Url} {classUrl : LicenseClass → Url}
    {classes : List LicenseClass} (hids : (classes.map (·.id)).Nodup)
    (hclasses : ∀ l ∈ classes, l.Publishable) (hlist : c.listUrl locale = .ok listUrl)
    (hurl : ∀ l ∈ classes, c.licenseUrl l.id = .ok (classUrl l)) :
    ((pages listUrl classUrl classes).map (·.1)).Nodup := by
  rw [pages, List.map_cons, List.nodup_cons, List.map_map]
  constructor
  · intro hmem
    obtain ⟨l, hl, hplace⟩ := List.mem_map.1 hmem
    exact wire_listUrl_ne hroot (hclasses l hl).segment hlist (hurl l hl) hplace.symm
  · rw [List.Nodup, List.pairwise_map] at hids ⊢
    refine hids.imp_of_mem fun {a b} ha hb hne => ?_
    exact wire_ne_of_ne hroot (hclasses b hb).segment (hclasses a ha).segment (hurl b hb)
      (hurl a ha) hne

theorem publishes_ofPages {locale : String} {listUrl : Url} {classUrl : LicenseClass → Url}
    {classes : List LicenseClass} (hids : (classes.map (·.id)).Nodup)
    (hclasses : ∀ l ∈ classes, l.Publishable) (hlist : c.listUrl locale = .ok listUrl)
    (hurl : ∀ l ∈ classes, c.licenseUrl l.id = .ok (classUrl l))
    (hsend : ∀ url, (c.listUrl locale = .ok url ∨ ∃ l ∈ classes, c.licenseUrl l.id = .ok url) →
      isSendable (extractAuthorization url).1 = true) :
    (Server.ofPages (pages listUrl classUrl classes)).Publishes c locale classes := by
  have hnodup := nodup_pages hroot hids hclasses hlist hurl
  constructor
  · obtain ⟨d, hparse, hlists⟩ := exists_parse_listing (classes.map (·.id))
    refine ⟨listUrl, _, d, hlist, ?_, hparse, hlists⟩
    exact serves_ofPages hnodup (hsend _ (.inl hlist)) List.mem_cons_self (head?_toXml ..)
  · intro l hl _
    refine ⟨classUrl l, hurl l hl, ?_⟩
    exact serves_ofPages hnodup (hsend _ (.inr ⟨l, hl, hurl l hl⟩))
      (List.mem_cons_of_mem _ (List.mem_map_of_mem hl)) (head?_toXml ..)

end Publishing

/-- Classes in normal form with identifiers of their own can be published, and wherever they are,
exactly those that are not excluded are retrieved, in order. -/
theorem retrieve_published {c : Client} {base : List String} (hroot : c.root.IsRoot base)
    {classes : List LicenseClass} (hclasses : ∀ l ∈ classes, l.Publishable)
    (hids : (classes.map (·.id)).Nodup) (locale : String) :
    (∃ d, Document.parse (listing (classes.map (·.id))).toXml = .ok d ∧
      d.Lists (classes.map (·.id))) ∧
    ((∀ url, (c.listUrl locale = .ok url ∨ ∃ l ∈ classes, c.licenseUrl l.id = .ok url) →
        isSendable (extractAuthorization url).1 = true) →
      ∃ server : Server, server.Publishes c locale classes) ∧
    ∀ server : Server, server.Publishes c locale classes → ∀ schedule,
      c.catalog server schedule locale =
        ⟨classes.filter fun l => !c.excluded.contains l.id, []⟩ ∧
      (c.catalog server schedule locale).isComplete = true := by
  refine ⟨exists_parse_listing _, fun hsend => ?_, fun server hserver schedule => ?_⟩
  · obtain ⟨query, hlist⟩ := listUrl_eq hroot locale
    have hurl : ∀ l ∈ classes, c.licenseUrl l.id = .ok _ := fun l hl =>
      licenseUrl_eq hroot (hclasses l hl).segment
    exact ⟨_, publishes_ofPages hroot hids hclasses hlist hurl hsend⟩
  · rw [catalog_of_publishes hserver hclasses schedule]
    exact ⟨rfl, rfl⟩

theorem retrieve_published_escaped :
    let c : Client := ⟨⟨"http", some ⟨"", none, some (.name "h"), none⟩, .segments ["rest", ""], none,
      none⟩, ["mark"], 1⟩
    let shown : LicenseClass := ⟨"a/<&\"é", "A & B", [⟨"q", "", "", [⟨"y", "</label>", ""⟩]⟩]⟩
    let hidden : LicenseClass := ⟨"mark", "", []⟩
    c.root.IsRoot ["rest"] ∧ (∀ l ∈ [shown, hidden], l.Publishable) ∧
    ([shown, hidden].map (·.id)).Nodup ∧
    (∃ d, Document.parse (listing [shown.id, hidden.id]).toXml = .ok d ∧
      d.Lists [shown.id, hidden.id]) ∧
    (∃ server : Server, server.Publishes c "en" [shown, hidden]) ∧
    ∀ server : Server, server.Publishes c "en" [shown, hidden] → ∀ schedule,
      c.catalog server schedule "en" = ⟨[shown], []⟩ ∧
      (c.catalog server schedule "en").isComplete = true := by
  intro c shown hidden
  have hroot : c.root.IsRoot ["rest"] := ⟨rfl, .inr rfl, by decide⟩
  have hshown : shown.Publishable := ⟨by decide, by decide, by decide, by decide⟩
  have hhidden : hidden.Publishable := ⟨by decide, by decide, by decide, by decide⟩
  have hclasses : ∀ l ∈ [shown, hidden], l.Publishable := by
    simpa using ⟨hshown, hhidden⟩
  have hids : ([shown, hidden].map (·.id)).Nodup := by decide
  have hurls : ∀ u ∈ [c.listUrl "en", c.licenseUrl shown.id, c.licenseUrl hidden.id],
      u.toOption.all fun url => isSendable (extractAuthorization url).1 := by decide +kernel
  have hsend : ∀ url,
      (c.listUrl "en" = .ok url ∨ ∃ l ∈ [shown, hidden], c.licenseUrl l.id = .ok url) →
        isSendable (extractAuthorization url).1 = true := by
    intro url hurl
    have hmem : .ok url ∈ [c.listUrl "en", c.licenseUrl shown.id, c.licenseUrl hidden.id] := by
      rcases hurl with h | ⟨l, hl, h⟩
      · rw [← h]
        exact List.mem_cons_self
      · rw [← h]
        exact List.mem_cons_of_mem _ (List.mem_map_of_mem (f := fun l => c.licenseUrl l.id) hl)
    exact hurls _ hmem
  obtain ⟨hlisting, hexists, hretrieved⟩ := retrieve_published hroot hclasses hids "en"
  exact ⟨hroot, hclasses, hids, hlisting, hexists hsend, hretrieved⟩

end Client

end LicenseChooser
