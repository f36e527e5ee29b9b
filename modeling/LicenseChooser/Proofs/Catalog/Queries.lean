import LicenseChooser.Proofs.Catalog.Requests
import LicenseChooser.Proofs.Url.Form
import LicenseChooser.Proofs.Url.Segments

/-!
What is asked for in a query. The caller's text comes back from the query as it was spelled, and nothing
of a query or a fragment that the root has gets in beside it.
-/

namespace LicenseChooser

open Http Url

/-- The query of `u` says this pair and no other, and ends what `u` is called in a request. -/
def Url.SaysPair (u : Url) (name value : String) : Prop :=
  ∃ query : String, u.query = some query ∧
    Form.decodePairs query.toList = [(name.toList, value.toList)] ∧ '#' ∉ query.toList ∧
    u.withoutFragment.toString =
      Url.toString { u with query := none, fragment := none } ++ "?" ++ query

theorem toString_withoutFragment {u : Url} {query : String} (h : u.query = some query) :
    u.withoutFragment.toString =
      Url.toString { u with query := none, fragment := none } ++ "?" ++ query := by
  -- whether a dot stands before the path depends on neither of the two
  have hdot : needsDot { u with query := none, fragment := none } = needsDot u.withoutFragment := rfl
  rw [Url.toString, Url.toString, hdot]
  simp only [withoutFragment, h, Option.map_some, Option.map_none, Option.getD_some,
    Option.getD_none, String.append_empty, String.append_assoc]

theorem withPair_saysPair (u : Url) (name value : String) :
    (withPair u name value).SaysPair name value := by
  refine ⟨_, rfl, ?_, ?_, toString_withoutFragment rfl⟩
  · rw [String.toList_ofList, Form.decodePairs_encodePair]
  · rw [String.toList_ofList]
    exact Form.not_mem_encodePair rfl (by decide) rfl (by decide) name value

/-- Leaving out user and password changes nothing of what a query says. -/
theorem Url.SaysPair.bare {u : Url} {name value : String} (h : u.SaysPair name value) :
    (extractAuthorization u).1.SaysPair name value := by
  obtain ⟨query, hquery, hpair, hend, -⟩ := h
  obtain ⟨-, -, hsame⟩ := rest_extractAuthorization u
  have hbare := hsame.trans hquery
  exact ⟨query, hbare, hpair, hend, toString_withoutFragment hbare⟩

/-- The URL at which `d` asks for one pair: it is what the first request is for, if one can be made. -/
structure AsksPair {α : Type} (d : Dialogue (Except Failure α)) (operation name value : String)
    (url : Url) : Prop where
  spelled : url.SaysPair name value
  sent : isSendable (extractAuthorization url).1 = true →
    ∃ r, d.first? = some r ∧ r.method = .get ∧ r.parts = [] ∧ r.target = url.wire ∧
      r.url.SaysPair name value
  unsent : isSendable (extractAuthorization url).1 = false →
    d = .done (.error (.transport operation url.toString
      (.building (extractAuthorization url).1.toString)))

theorem asksPair_request {α : Type} (operation name value : String) (url : Url)
    (parse : String → Except Failure α) :
    AsksPair (request operation .get (.ok (withPair url name value)) [] parse) operation name value
      (withPair url name value) where
  spelled := withPair_saysPair url name value
  sent hsend :=
    ⟨_, first?_request hsend, rfl, rfl, rfl, (withPair_saysPair url name value).bare⟩
  unsent := request_of_not_sendable

namespace Client

section Queries

variable {c : Client} (hroot : c.root.isOpaque = false)
include hroot

theorem tryList_asksPair (locale : String) :
    ∃ url, c.listUrl locale = .ok url ∧
      AsksPair (c.tryList locale) Operation.listLicenses "locale" locale url := by
  obtain ⟨url, hurl⟩ := exists_endpoint hroot Operation.listLicenses [""]
  have hlist : c.listUrl locale = .ok (withPair url "locale" locale) := by
    rw [listUrl, hurl]
    rfl
  refine ⟨_, hlist, ?_⟩
  rw [tryList, hlist]
  exact asksPair_request Operation.listLicenses "locale" locale url (parseLicenseIds c.excluded)

theorem tryDocument_asksPair {uri : String} {u : Url} (hu : Url.parse uri = .ok u) :
    ∃ url, c.detailsUrl uri = .ok url ∧
      AsksPair (c.tryDocument uri) Operation.fetchDocument "license-uri" uri url := by
  obtain ⟨url, hurl⟩ := exists_endpoint hroot Operation.fetchDocument ["details"]
  have hdetails : c.detailsUrl uri = .ok (withPair url "license-uri" uri) := by
    rw [detailsUrl, hurl]
    rfl
  refine ⟨_, hdetails, ?_⟩
  rw [tryDocument, hu, hdetails]
  exact asksPair_request Operation.fetchDocument "license-uri" uri url
    (readDocument Operation.fetchDocument)

end Queries

theorem tryDocument_of_error (c : Client) {uri : String} {e : Url.Error}
    (h : Url.parse uri = .error e) :
    c.tryDocument uri = .done (.error (.invalidUrl Operation.fetchDocument uri e.message)) := by
  rw [tryDocument, h]

/-- A locale and the URI of a license are asked for as they are spelled, whatever they are and whatever
root they are asked for below. What is no URI is not asked for. -/
theorem queries_exact {c : Client} (hroot : c.root.isOpaque = false) (locale uri : String) :
    (∃ url, c.listUrl locale = .ok url ∧
      AsksPair (c.tryList locale) Operation.listLicenses "locale" locale url) ∧
    (∀ u, Url.parse uri = .ok u → ∃ url, c.detailsUrl uri = .ok url ∧
      AsksPair (c.tryDocument uri) Operation.fetchDocument "license-uri" uri url) ∧
    ∀ e, Url.parse uri = .error e →
      c.tryDocument uri = .done (.error (.invalidUrl Operation.fetchDocument uri e.message)) :=
  ⟨tryList_asksPair hroot locale, fun _ => tryDocument_asksPair hroot,
    fun _ => tryDocument_of_error c⟩

theorem queries_exact_spelled :
    let root : Url := ⟨"http", some ⟨"", none, some (.name "h"), none⟩, .segments ["rest"],
      some "x=1&locale=de", some "f"⟩
    let c : Client := ⟨root, [], 5⟩
    let locale := "a&b=c +%41#é"
    let uri := "HTTP://h:80/../x?q=é&y#f"
    c.root.isOpaque = false ∧
    (Url.parse uri).toOption.map Url.toString = some "http://h/x?q=%C3%A9&y#f" ∧
    (c.tryList locale).first?.map (·.target) =
      some "http://h/rest/?locale=a%26b%3Dc+%2B%2541%23%C3%A9" ∧
    (c.tryDocument uri).first?.map (·.target) =
      some "http://h/rest/details?license-uri=HTTP%3A%2F%2Fh%3A80%2F..%2Fx%3Fq%3D%C3%A9%26y%23f" ∧
    (∃ url, c.listUrl locale = .ok url ∧
      AsksPair (c.tryList locale) Operation.listLicenses "locale" locale url) ∧
    (∀ u, Url.parse uri = .ok u → ∃ url, c.detailsUrl uri = .ok url ∧
      AsksPair (c.tryDocument uri) Operation.fetchDocument "license-uri" uri url) ∧
    ∀ e, Url.parse uri = .error e →
      c.tryDocument uri = .done (.error (.invalidUrl Operation.fetchDocument uri e.message)) := by
  intro root c locale uri
  have hroot : c.root.isOpaque = false := rfl
  exact ⟨hroot, by decide +kernel, by decide +kernel, by decide +kernel,
    queries_exact hroot locale uri⟩

/-- Below a root with braces in its host nothing is asked for. -/
theorem queries_unsent :
    ∃ root c, Url.parse "http://\x7bx\x7d/" = .ok root ∧ root.scheme = "http" ∧
      Client.create (.ofRoot root) = .ok c ∧ (Url.parse "http://h/").isOk ∧
      (c.tryList "en").first? = none ∧ (c.tryDocument "http://h/").first? = none := by
  let root : Url := ⟨"http", some ⟨"", none, some (.name "\x7bx\x7d"), none⟩, .segments [""], none,
    none⟩
  have hparse : (Url.parse "http://\x7bx\x7d/").toOption = some root := by decide +kernel
  have hlist : (Client.tryList ⟨root, [], 5⟩ "en").first? = none := by decide +kernel
  have hdocument : (Client.tryDocument ⟨root, [], 5⟩ "http://h/").first? = none := by
    decide +kernel
  exact ⟨root, ⟨root, [], 5⟩, eq_ok_of_toOption hparse, rfl, rfl, by decide +kernel, hlist,
    hdocument⟩

end Client

end LicenseChooser
