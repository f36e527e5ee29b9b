import LicenseChooser.Proofs.Answers.Acceptance
import LicenseChooser.Proofs.Catalog.Addresses

/-!
Where answers are sent, and when. An identifier that the document of answers can carry is written in
a URL as it is, so the URL names the same class as the document. Only the dot segments, which are
such identifiers too, are left out of the URL, which then names no class. Answers that cannot be
sent are refused before any request.
-/

namespace LicenseChooser

open Http Markup Text Url

theorem toNat_lt_of_isNameChar {c : Char} (h : isNameChar c = true) : c.toNat < 128 := by
  simp only [isNameChar, Bool.or_eq_true, beq_iff_eq] at h
  rcases h with ((h | rfl) | rfl) | rfl
  · have hranges : (decide (65 ≤ c.toNat ∧ c.toNat ≤ 90) ||
        decide (97 ≤ c.toNat) && decide (c.toNat ≤ 122) ||
        decide (48 ≤ c.toNat) && decide (c.toNat ≤ 57)) = true := h
    simp only [Bool.or_eq_true, Bool.and_eq_true, decide_eq_true_eq] at hranges
    omega
  all_goals decide

theorem specialSegmentSet_of_isNameChar {c : Char} (h : isNameChar c = true) :
    specialSegmentSet c = false := by
  have hascii : ∀ n : Fin 128, isNameChar (Char.ofNat n) = true →
      specialSegmentSet (Char.ofNat n) = false := by decide +kernel
  have hc := hascii ⟨c.toNat, toNat_lt_of_isNameChar h⟩
  rw [Char.ofNat_toNat] at hc
  exact hc h

theorem segmentForm_of_isNameText {s : String} (h : IsNameText s) : segmentForm s = s := by
  rw [segmentForm, percentEncode_eq_self fun c hc => specialSegmentSet_of_isNameChar (h c hc),
    String.ofList_toList]

theorem isSegment_of_isNameText {s : String} (h : IsNameText s) (hdots : ¬ IsDotSegment s) :
    IsSegment s := by
  obtain ⟨hdot, hdots⟩ := not_or.1 hdots
  have hnot : ∀ {c : Char}, isNameChar c = false → c ∉ s.toList := by
    intro c hc hmem
    rw [h c hmem] at hc
    cases hc
  exact ⟨hdot, hdots, hnot rfl, hnot rfl, hnot rfl⟩

/-- What stands below the root in the URL that answers are sent to. -/
def issueSegments (id : String) : List String :=
  "license" :: if IsDotSegment id then ["issue"] else [id, "issue"]

def issuePath (id : String) : String :=
  if IsDotSegment id then "/license/issue" else "/license/" ++ id ++ "/issue"

/-- The URL on the server of `root` that has no query, and this path below `base`. -/
structure Url.IsBelow (root : Url) (base : List String) (path : String) (u : Url) : Prop where
  scheme : u.scheme = root.scheme
  host : u.host? = root.host?
  port : u.effectivePort? = root.effectivePort?
  query : u.query = none
  path : u.path.toString = (Path.segments base).toString ++ path

theorem Url.IsBelow.bare {root u : Url} {base : List String} {path : String}
    (h : IsBelow root base path u) : IsBelow root base path (extractAuthorization u).1 := by
  obtain ⟨hhost, hport⟩ := place_extractAuthorization u
  obtain ⟨hscheme, hpath, hquery⟩ := rest_extractAuthorization u
  exact ⟨hscheme.trans h.scheme, hhost.trans h.host, hport.trans h.port, hquery.trans h.query,
    hpath ▸ h.path⟩

theorem toString_issueSegments (id : String) :
    (Path.segments (issueSegments id)).toString = issuePath id := by
  rw [issueSegments, issuePath]
  split
  · rfl
  · have hissue : (Path.segments ["issue"]).toString = "/issue" := by decide
    have happend : ["license", id, "issue"] = ["license", id] ++ ["issue"] := rfl
    rw [happend, toString_segments_append, hissue, toString_license]

/-- Only the dot segments share a path. -/
theorem issuePath_eq_iff (id id' : String) :
    issuePath id' = issuePath id ↔ id' = id ∨ IsDotSegment id ∧ IsDotSegment id' := by
  have hshort : ∀ id : String, "/license/issue" ≠ "/license/" ++ id ++ "/issue" := by
    intro id h
    have hlength := congrArg String.length h
    rw [String.length_append, String.length_append] at hlength
    have hwhole : "/license/issue".length = 14 := rfl
    have hfirst : "/license/".length = 9 := rfl
    have hlast : "/issue".length = 6 := rfl
    omega
  rw [issuePath, issuePath]
  by_cases hid : IsDotSegment id
  · by_cases hid' : IsDotSegment id'
    · simp only [hid, hid', if_true, and_self, or_true]
    · have hne : id' ≠ id := fun h => hid' (h ▸ hid)
      simp only [hid, hid', if_true, if_false, (hshort id').symm, hne, and_false, or_self]
  · by_cases hid' : IsDotSegment id'
    · have hne : id' ≠ id := fun h => hid (h ▸ hid')
      simp only [hid, hid', if_true, if_false, hshort id, hne, false_and, or_self]
    · simp only [hid, hid', if_false, String.append_left_inj, String.append_right_inj, false_and,
        or_false]

namespace Client

section Issuing

variable {c : Client} {base : List String} (hroot : c.root.IsRoot base)
include hroot

theorem issueUrl_eq {id : String} (hid : IsNameText id) :
    c.issueUrl id = .ok { c.root with
      query := none, path := .segments (base ++ issueSegments id) } := by
  have hlicense : segmentForm "license" = "license" := by decide
  have hissue : segmentForm "issue" = "issue" := by decide
  rw [issueSegments]
  split
  · rename_i hdots
    have hsame : c.issueUrl id = endpoint Operation.resolveUri c.root ["license", "issue"] := by
      rw [issueUrl, endpoint, endpoint]
      simp only [List.foldl_cons, appendSegment_dots _ _ hdots]
    have hurl := hroot.endpoint_eq Operation.resolveUri (by decide : IsSegment "license")
      (by decide : ∀ s ∈ ["issue"], IsSegment s) fun _ => by decide
    rwa [List.map_cons, List.map_cons, List.map_nil, hlicense, hissue, ← hsame] at hurl
  · rename_i hdots
    have hrest : ∀ s ∈ [id, "issue"], IsSegment s := by
      rw [List.forall_mem_cons]
      exact ⟨isSegment_of_isNameText hid hdots, by decide⟩
    have hurl := hroot.endpoint_eq Operation.resolveUri (by decide : IsSegment "license") hrest
      fun _ => by decide
    rwa [List.map_cons, List.map_cons, List.map_cons, List.map_nil, hlicense, hissue,
      segmentForm_of_isNameText hid] at hurl

theorem isBelow_issueUrl {id : String} {url : Url} (hid : IsNameText id)
    (hurl : c.issueUrl id = .ok url) : IsBelow c.root base (issuePath id) url := by
  rw [issueUrl_eq hroot hid, Except.ok.injEq] at hurl
  rw [← hurl]
  refine ⟨rfl, rfl, rfl, rfl, ?_⟩
  rw [toString_segments_append, toString_issueSegments]

theorem wire_issueUrl {id : String} {url : Url} (hid : IsNameText id)
    (hurl : c.issueUrl id = .ok url) :
    url.wire = c.root.origin ++ (Path.segments base).toString ++ issuePath id := by
  rw [issueUrl_eq hroot hid, Except.ok.injEq] at hurl
  rw [← hurl, ← toString_issueSegments, issueSegments, hroot.wire_eq none fun _ => by decide]
  simp only [Option.map_none, Option.getD_none, String.append_empty]

theorem wire_issueUrl_eq_iff {id id' : String} {url url' : Url} (hid : IsNameText id)
    (hid' : IsNameText id') (hurl : c.issueUrl id = .ok url) (hurl' : c.issueUrl id' = .ok url') :
    url'.wire = url.wire ↔ id' = id ∨ IsDotSegment id ∧ IsDotSegment id' := by
  rw [wire_issueUrl hroot hid hurl, wire_issueUrl hroot hid' hurl', String.append_right_inj,
    issuePath_eq_iff]

end Issuing

section Sending

variable {c : Client} {id locale : String} {answers : Answers}

theorem tryResolve_of_error {e : Failure} (h : answerPayload id locale answers = .error e) :
    c.tryResolve id locale answers = .done (.error e) := by
  rw [tryResolve, h]

theorem tryResolve_of_payload {payload : String} {url : Url}
    (h : answerPayload id locale answers = .ok payload) (hurl : c.issueUrl id = .ok url) :
    c.tryResolve id locale answers =
      request Operation.resolveUri .post (.ok url) [⟨answersPart, payload⟩] parseLicenseUri := by
  rw [tryResolve, h, hurl]

end Sending

/-- Answers for `id` are posted, with nothing else, to a URL below the root that names the same
class as their document does; the dot segments are the only identifiers that share one. -/
structure PostsBelow (c : Client) (base : List String) (id locale payload : String)
    (answers : Answers) (url : Url) : Prop where
  formed : c.issueUrl id = .ok url
  below : IsBelow c.root base (issuePath id) url
  posted : isSendable (extractAuthorization url).1 = true →
    ∃ r, (c.tryResolve id locale answers).first? = some r ∧ r.method = .post ∧
      r.parts = [⟨answersPart, payload⟩] ∧ r.target = url.wire ∧
      IsBelow c.root base (issuePath id) r.url
  unsent : isSendable (extractAuthorization url).1 = false →
    c.tryResolve id locale answers = .done (.error (.transport Operation.resolveUri url.toString
      (.building (extractAuthorization url).1.toString)))
  named : ∃ d l k, Document.parse payload = .ok d ∧ d.root.children = [l, k] ∧
    k.name = "license-" ++ id
  shared : ∀ id' url', IsNameText id' → c.issueUrl id' = .ok url' →
    (url'.wire = url.wire ↔ id' = id ∨ IsDotSegment id ∧ IsDotSegment id')

theorem tryResolve_address {c : Client} {base : List String} (hroot : c.root.IsRoot base)
    {id locale payload : String} {answers : Answers}
    (h : answerPayload id locale answers = .ok payload) :
    ∃ url, c.PostsBelow base id locale payload answers url := by
  have hid := (acceptable_of_answerPayload h).id
  have hurl := issueUrl_eq hroot hid
  have hbelow := isBelow_issueUrl hroot hid hurl
  refine ⟨_, hurl, hbelow, fun hsend => ?_, fun hsend => ?_, ?_, fun id' url' hid' hurl' => ?_⟩
  · rw [tryResolve_of_payload h hurl, first?_request hsend]
    exact ⟨_, rfl, rfl, rfl, rfl, hbelow.bare⟩
  · rw [tryResolve_of_payload h hurl, request_of_not_sendable hsend]
  · obtain ⟨hclass, hkeys, rfl⟩ := answerPayload_eq_ok h
    exact ⟨_, .leaf "locale" locale, answersElement id answers.items,
      parse_answersSource hclass hkeys locale, rfl, rfl⟩
  · exact wire_issueUrl_eq_iff hroot hid hid' hurl hurl'

theorem tryResolve_address_dotted :
    let root : Url := ⟨"http", some ⟨"", none, some (.name "h"), some 8080⟩,
      .segments ["rest", ""], some "q", none⟩
    let c : Client := ⟨root, [], 1⟩
    let id := "..nc-4.0_"
    let answers := Answers.ofList [("jurisdiction", "</a>")]
    let payload := (answersSource id "en" answers.items).toXml
    root.IsRoot ["rest"] ∧ answerPayload id "en" answers = .ok payload ∧
    (c.tryResolve id "en" answers).first?.map (·.target) =
      some "http://h:8080/rest/license/..nc-4.0_/issue" ∧
    ∃ url, c.PostsBelow ["rest"] id "en" payload answers url := by
  intro root c id answers payload
  have hroot : root.IsRoot ["rest"] := ⟨rfl, .inr rfl, by decide⟩
  have hpayload : (answerPayload id "en" answers).toOption = some payload := by decide +kernel
  have h : answerPayload id "en" answers = .ok payload := eq_ok_of_toOption hpayload
  exact ⟨hroot, h, by decide +kernel, @tryResolve_address c _ hroot id "en" payload answers h⟩

/-- Both dot segments are accepted, and the answers for both go to the same URL, which has none of
them. -/
theorem tryResolve_same_address :
    ∃ root c payload payload', Url.parse "http://h/" = .ok root ∧ root.IsRoot [] ∧
      Client.create (.ofRoot root) = .ok c ∧
      answerPayload "." "en" (.ofList []) = .ok payload ∧
      answerPayload ".." "en" (.ofList []) = .ok payload' ∧
      (c.tryResolve "." "en" (.ofList [])).first?.map (·.target) =
        some "http://h/license/issue" ∧
      (c.tryResolve ".." "en" (.ofList [])).first?.map (·.target) =
        some "http://h/license/issue" := by
  let root : Url := ⟨"http", some ⟨"", none, some (.name "h"), none⟩, .segments [""], none, none⟩
  have hparse : (Url.parse "http://h/").toOption = some root := by decide +kernel
  exact ⟨root, ⟨root, [], 5⟩, _, _, eq_ok_of_toOption hparse, ⟨rfl, .inr rfl, by decide⟩, rfl, rfl,
    rfl, by decide +kernel, by decide +kernel⟩

/-- A request goes out for answers exactly if they can be sent and one can be made for their URL; it
is a post that carries their document alone. All others are refused with the first thing wrong. -/
structure PostsAcceptable (c : Client) (id locale : String) (answers : Answers) (url : Url) :
    Prop where
  formed : c.issueUrl id = .ok url
  sends : ∀ server before, (c.tryResolve id locale answers).asked server before ≠ [] ↔
    Acceptable id answers ∧ isSendable (extractAuthorization url).1 = true
  badId : ¬ IsNameText id →
    c.tryResolve id locale answers = .done (.error (.invalidLicenseId id))
  badKey : IsNameText id → ∀ earlier key value later,
    answers.items = earlier ++ (key, value) :: later → (∀ a ∈ earlier, IsKey a.1) → ¬ IsKey key →
      c.tryResolve id locale answers = .done (.error (.invalidAnswerKey key))
  posted : Acceptable id answers → isSendable (extractAuthorization url).1 = true →
    ∀ server before, ∃ r, ((c.tryResolve id locale answers).asked server before).head? = some r ∧
      r.method = .post ∧ r.parts = [⟨"answers", answersText id locale answers.items⟩]
  unsent : Acceptable id answers → isSendable (extractAuthorization url).1 = false →
    c.tryResolve id locale answers = .done (.error (.transport Operation.resolveUri url.toString
      (.building (extractAuthorization url).1.toString)))

theorem tryResolve_sends {c : Client} (hroot : c.root.isOpaque = false) (id locale : String)
    (answers : Answers) : ∃ url, c.PostsAcceptable id locale answers url := by
  obtain ⟨url, hurl⟩ := exists_endpoint hroot Operation.resolveUri ["license", id, "issue"]
  have hrequest : Acceptable id answers → c.tryResolve id locale answers =
      request Operation.resolveUri .post (.ok url)
        [⟨answersPart, answersText id locale answers.items⟩] parseLicenseUri := by
    intro h
    rw [tryResolve_of_payload (answerPayload_of_acceptable h locale) hurl, toXml_answersSource]
  refine ⟨url, hurl, fun server before => ?_, fun hid => ?_, ?_, ?_, ?_⟩
  · rw [← List.isSome_head?, Dialogue.head?_asked]
    by_cases h : Acceptable id answers
    · cases hsend : isSendable (extractAuthorization url).1 with
      | true => simp [hrequest h, first?_request hsend, h]
      | false => simp [hrequest h, request_of_not_sendable hsend, Dialogue.first?]
    · obtain ⟨e, he, -⟩ := exists_of_not_acceptable h locale
      simp [tryResolve_of_error he, Dialogue.first?, h]
  · exact tryResolve_of_error (answerPayload_of_id hid locale answers)
  · intro hid earlier key value later hitems hearlier hkey
    exact tryResolve_of_error (answerPayload_of_key hid hitems hearlier hkey locale)
  · intro h hsend server before
    rw [Dialogue.head?_asked, hrequest h, first?_request hsend]
    exact ⟨_, rfl, rfl, rfl⟩
  · intro h hsend
    rw [hrequest h, request_of_not_sendable hsend]

theorem tryResolve_sends_escaped :
    let root : Url := ⟨"http", some ⟨"", none, some (.name "h"), none⟩, .segments [""], none, none⟩
    let c : Client := ⟨root, [], 5⟩
    let answers := Answers.ofList [("b", "<&>"), ("_a", "")]
    c.root.isOpaque = false ∧
    (c.tryResolve "" "en" answers).first?.map (·.parts) = some [⟨"answers",
      "<answers> <locale>en</locale><license-><b>&lt;&amp;&gt;</b><_a></_a></license->" ++
        "</answers>"⟩] ∧
    ∃ url, c.PostsAcceptable "" "en" answers url := by
  intro root c answers
  have hroot : c.root.isOpaque = false := rfl
  exact ⟨hroot, by decide +kernel, tryResolve_sends hroot "" "en" answers⟩

/-- A host with braces in its name is one that no answers are sent to. -/
theorem tryResolve_unsent :
    ∃ root c payload, Url.parse "http://\x7bx\x7d/" = .ok root ∧ root.scheme = "http" ∧
      Client.create (.ofRoot root) = .ok c ∧
      Acceptable "standard" (.ofList [("a", "b")]) ∧
      answerPayload "standard" "en" (.ofList [("a", "b")]) = .ok payload ∧
      ∀ server before,
        (c.tryResolve "standard" "en" (.ofList [("a", "b")])).asked server before = [] := by
  let root : Url := ⟨"http", some ⟨"", none, some (.name "\x7bx\x7d"), none⟩, .segments [""], none,
    none⟩
  have hparse : (Url.parse "http://\x7bx\x7d/").toOption = some root := by decide +kernel
  have hpayload : answerPayload "standard" "en" (.ofList [("a", "b")]) =
      .ok (answersSource "standard" "en" [("a", "b")]).toXml := by rfl
  have hsent : (Client.tryResolve ⟨root, [], 5⟩ "standard" "en" (.ofList [("a", "b")])).first? =
      none := by decide +kernel
  refine ⟨root, ⟨root, [], 5⟩, _, eq_ok_of_toOption hparse, rfl, rfl,
    acceptable_of_answerPayload hpayload, hpayload, fun server before => ?_⟩
  rw [← List.head?_eq_none_iff, Dialogue.head?_asked, hsent]

end Client

end LicenseChooser
