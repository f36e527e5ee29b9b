import LicenseChooser.Proofs.Catalog.Requests

/-!
The URL of a class. Its identifier, whatever characters it has, stays in one segment below the root, and
can be told from it; so no two classes share a URL. One request goes out for it, unless it is a URL for
which none can be made.
-/

namespace LicenseChooser

open Http Text Url

/-- A URL of the web that has these segments as its path, with or without a slash at its end. -/
structure Url.IsRoot (root : Url) (base : List String) : Prop where
  kind : root.kind = .web
  path : root.path = .segments base ∨ root.path = .segments (base ++ [""])
  nonempty : "" ∉ base

/-- The URL on the server of `root` that has no query, and whose path is `base`, the word `license` and
one segment that says `id`. -/
structure Url.NamesClass (root : Url) (base : List String) (id : String) (u : Url) : Prop where
  scheme : u.scheme = root.scheme
  host : u.host? = root.host?
  port : u.effectivePort? = root.effectivePort?
  query : u.query = none
  path : ∃ segment : String,
    u.path.toString = (Path.segments base).toString ++ "/license/" ++ segment ∧
    '/' ∉ segment.toList ∧ '?' ∉ segment.toList ∧ '#' ∉ segment.toList ∧
    readUtf8? (percentDecode segment.toList) = some id.toList

namespace Url.IsRoot

variable {root : Url} {base : List String} (h : root.IsRoot base)
include h

theorem endpoint_eq (operation : String) {first : String} {rest : List String}
    (hf : IsSegment first) (hr : ∀ s ∈ rest, IsSegment s) (hne : rest ≠ [] → first ≠ "") :
    endpoint operation root (first :: rest) =
      .ok { root with
        query := none, path := .segments (base ++ (first :: rest).map segmentForm) } := by
  obtain ⟨parts, hpath, hopen⟩ :
      ∃ parts, root.path = .segments parts ∧ openEnd (popIfEmpty parts) = base := by
    rcases h.path with hp | hp
    · exact ⟨_, hp, openEnd_popIfEmpty h.nonempty (.inl rfl)⟩
    · exact ⟨_, hp, openEnd_popIfEmpty h.nonempty (.inr rfl)⟩
  have hfold : (first :: rest).foldl (appendSegment .web) (popIfEmpty parts) =
      base ++ (first :: rest).map segmentForm := by
    rw [List.foldl_cons, appendSegment_web _ hf, hopen, List.map_cons]
    cases rest with
    | nil => rfl
    | cons second rest =>
        -- a first segment that is empty would be filled by the second one at a root without path
        have hslash : base ++ [segmentForm first] ≠ [""] := by
          intro he
          cases base with
          | nil =>
              exact segmentForm_ne_empty (hne (List.cons_ne_nil _ _)) (List.head_eq_of_cons_eq he)
          | cons x base => simp at he
        rw [foldl_appendSegment_web (by simp) hslash hr, List.append_assoc, List.singleton_append]
  rw [endpoint, hpath, h.kind]
  simp only [hfold]

theorem wire_eq (query : Option String) {first : String} {rest : List String}
    (hne : rest ≠ [] → first ≠ "") :
    wire { root with query, path := .segments (base ++ first :: rest) } =
      root.origin ++ (Path.segments base).toString ++ (Path.segments (first :: rest)).toString ++
        (query.map ("?" ++ ·)).getD "" := by
  have hfirst : ∀ x y more, base ++ first :: rest = x :: y :: more → x ≠ "" := by
    intro x y more he
    cases hbase : base with
    | nil =>
        rw [hbase, List.nil_append, List.cons.injEq] at he
        obtain ⟨rfl, rfl⟩ := he
        exact hne (List.cons_ne_nil _ _)
    | cons b base =>
        rw [hbase] at he
        have hx : b = x := List.head_eq_of_cons_eq he
        exact fun hempty => h.nonempty (hbase ▸ (hx.trans hempty) ▸ List.mem_cons_self)
  rw [wire_below root query hfirst, toString_segments_append, ← String.append_assoc]

end Url.IsRoot

/-- Leaving out user and password changes nothing of what a URL names. -/
theorem Url.NamesClass.bare {root u : Url} {base : List String} {id : String}
    (h : NamesClass root base id u) : NamesClass root base id (extractAuthorization u).1 := by
  obtain ⟨hhost, hport⟩ := place_extractAuthorization u
  obtain ⟨hscheme, hpath, hquery⟩ := rest_extractAuthorization u
  exact ⟨hscheme.trans h.scheme, hhost.trans h.host, hport.trans h.port, hquery.trans h.query,
    hpath ▸ h.path⟩

theorem toString_license (segment : String) :
    (Path.segments ["license", segment]).toString = "/license/" ++ segment := by
  simp only [Path.toString, List.map_cons, List.map_nil, String.join_cons, String.join_nil,
    String.append_empty, ← String.append_assoc]
  rfl

namespace Client

section Addresses

variable {c : Client} {base : List String} (hroot : c.root.IsRoot base)
include hroot

theorem licenseUrl_eq {id : String} (hid : IsSegment id) :
    c.licenseUrl id = .ok { c.root with
      query := none, path := .segments (base ++ ["license", segmentForm id]) } := by
  have hword : segmentForm "license" = "license" := by decide
  have hrest : ∀ s ∈ [id], IsSegment s := by simpa using hid
  have hurl := hroot.endpoint_eq Operation.getLicense (by decide : IsSegment "license") hrest
    fun _ => by decide
  rwa [List.map_cons, List.map_cons, List.map_nil, hword] at hurl

theorem wire_licenseUrl {id : String} {url : Url} (hid : IsSegment id)
    (hurl : c.licenseUrl id = .ok url) :
    url.wire =
      c.root.origin ++ (Path.segments base).toString ++ "/license/" ++ segmentForm id := by
  rw [licenseUrl_eq hroot hid, Except.ok.injEq] at hurl
  rw [← hurl, hroot.wire_eq none fun _ => by decide, toString_license]
  simp only [Option.map_none, Option.getD_none, String.append_empty, String.append_assoc]

/-- No two classes share a URL. -/
theorem wire_ne_of_ne {id id' : String} {url url' : Url} (hid : IsSegment id)
    (hid' : IsSegment id') (hurl : c.licenseUrl id = .ok url) (hurl' : c.licenseUrl id' = .ok url')
    (hne : id' ≠ id) : url'.wire ≠ url.wire := by
  rw [wire_licenseUrl hroot hid hurl, wire_licenseUrl hroot hid' hurl']
  intro h
  exact hne (segmentForm_injective ((String.append_right_inj _).1 h))

theorem namesClass_licenseUrl {id : String} {url : Url} (hid : IsSegment id)
    (hurl : c.licenseUrl id = .ok url) : NamesClass c.root base id url := by
  rw [licenseUrl_eq hroot hid, Except.ok.injEq] at hurl
  rw [← hurl]
  refine ⟨rfl, rfl, rfl, rfl, segmentForm id, ?_, ?_, ?_, ?_, readUtf8?_segmentForm id⟩
  · rw [toString_segments_append, toString_license, String.append_assoc]
  · exact not_mem_segmentForm rfl rfl id
  · exact not_mem_segmentForm rfl rfl id
  · exact not_mem_segmentForm rfl rfl id

theorem licenseUrl_withPath {path : Path}
    (hpath : path = .segments base ∨ path = .segments (base ++ [""])) {id : String}
    (hid : IsSegment id) :
    Client.licenseUrl { c with root := { c.root with path } } id = c.licenseUrl id := by
  have hroot' : ({ c.root with path } : Url).IsRoot base := ⟨hroot.kind, hpath, hroot.nonempty⟩
  rw [licenseUrl_eq hroot hid, licenseUrl_eq hroot' hid]

end Addresses

variable {c : Client} {id : String} {url : Url}

theorem first?_tryGet (hurl : c.licenseUrl id = .ok url)
    (h : isSendable (extractAuthorization url).1 = true) :
    (c.tryGet id).first? =
      some ⟨.get, (extractAuthorization url).1, (extractAuthorization url).2, []⟩ := by
  rw [tryGet, hurl, first?_request h]

theorem tryGet_of_not_sendable (hurl : c.licenseUrl id = .ok url)
    (h : isSendable (extractAuthorization url).1 = false) :
    c.tryGet id = .done (.error (.transport Operation.getLicense url.toString
      (.building (extractAuthorization url).1.toString))) := by
  rw [tryGet, hurl, request_of_not_sendable h]

/-- Whatever its identifier, a class is asked for below the root and nowhere else, and no other class
is asked for there. -/
theorem tryGet_address {base : List String} (hroot : c.root.IsRoot base) (hid : IsSegment id) :
    ∃ url, c.licenseUrl id = .ok url ∧ NamesClass c.root base id url ∧
      (isSendable (extractAuthorization url).1 = true →
        ∃ r, (c.tryGet id).first? = some r ∧ r.method = .get ∧ r.parts = [] ∧
          r.target = url.wire ∧ NamesClass c.root base id r.url) ∧
      (isSendable (extractAuthorization url).1 = false →
        c.tryGet id = .done (.error (.transport Operation.getLicense url.toString
          (.building (extractAuthorization url).1.toString)))) ∧
      (∀ id' url', IsSegment id' → id' ≠ id → c.licenseUrl id' = .ok url' →
        url'.wire ≠ url.wire) ∧
      (∀ path, path = .segments base ∨ path = .segments (base ++ [""]) →
        Client.licenseUrl { c with root := { c.root with path } } id = .ok url) ∧
      ∀ s c', Client.create s = .ok c' → ∀ operation segments,
        ∃ u, endpoint operation c'.root segments = .ok u := by
  have hurl := licenseUrl_eq hroot hid
  have hnames := namesClass_licenseUrl hroot hid hurl
  refine ⟨_, hurl, hnames, fun hsend => ?_, tryGet_of_not_sendable hurl, ?_, ?_, ?_⟩
  · exact ⟨_, first?_tryGet hurl hsend, rfl, rfl, rfl, hnames.bare⟩
  · exact fun id' url' hid' hne hurl' => wire_ne_of_ne hroot hid hid' hurl hurl' hne
  · exact fun path hpath => (licenseUrl_withPath hroot hpath hid).trans hurl
  · exact fun s c' hcreate => endpoint_of_create hcreate

theorem tryGet_address_escaped :
    let root : Url := ⟨"http", some ⟨"", none, some (.name "h"), some 8080⟩,
      .segments ["rest", "1.5", ""], some "q", none⟩
    let c : Client := ⟨root, [], 1⟩
    let id := "/a?b#%2e\\ é"
    root.IsRoot ["rest", "1.5"] ∧ IsSegment id ∧
    (c.tryGet id).first?.map (·.target) =
      some "http://h:8080/rest/1.5/license/%2Fa%3Fb%23%252e%5C%20%C3%A9" ∧
    ∃ url, c.licenseUrl id = .ok url ∧ NamesClass root ["rest", "1.5"] id url ∧
      (isSendable (extractAuthorization url).1 = true →
        ∃ r, (c.tryGet id).first? = some r ∧ r.method = .get ∧ r.parts = [] ∧
          r.target = url.wire ∧ NamesClass root ["rest", "1.5"] id r.url) ∧
      (isSendable (extractAuthorization url).1 = false →
        c.tryGet id = .done (.error (.transport Operation.getLicense url.toString
          (.building (extractAuthorization url).1.toString)))) ∧
      (∀ id' url', IsSegment id' → id' ≠ id → c.licenseUrl id' = .ok url' →
        url'.wire ≠ url.wire) ∧
      (∀ path, path = .segments ["rest", "1.5"] ∨ path = .segments (["rest", "1.5"] ++ [""]) →
        Client.licenseUrl { c with root := { c.root with path } } id = .ok url) ∧
      ∀ s c', Client.create s = .ok c' → ∀ operation segments,
        ∃ u, endpoint operation c'.root segments = .ok u := by
  intro root c id
  have hroot : root.IsRoot ["rest", "1.5"] := ⟨rfl, .inr rfl, by decide⟩
  have hid : IsSegment id := by decide
  exact ⟨hroot, hid, by decide +kernel, @tryGet_address c id _ hroot hid⟩

/-- A host with braces in its name is one that no request is made for. -/
theorem tryGet_unsent :
    ∃ root c, Url.parse "http://\x7bx\x7d/" = .ok root ∧ root.IsRoot [] ∧ IsSegment "x" ∧
      Client.create (.ofRoot root) = .ok c ∧ (c.tryGet "x").first? = none := by
  let root : Url := ⟨"http", some ⟨"", none, some (.name "\x7bx\x7d"), none⟩, .segments [""], none,
    none⟩
  have hparse : (Url.parse "http://\x7bx\x7d/").toOption = some root := by decide +kernel
  have hsent : (Client.tryGet ⟨root, [], 5⟩ "x").first? = none := by decide +kernel
  exact ⟨root, ⟨root, [], 5⟩, eq_ok_of_toOption hparse, ⟨rfl, .inr rfl, by decide⟩, by decide, rfl,
    hsent⟩

end Client

end LicenseChooser
