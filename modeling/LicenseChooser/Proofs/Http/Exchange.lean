import LicenseChooser.Http.Charset
import LicenseChooser.Http.Redirect
import LicenseChooser.Proofs.Http.Ensuring
import LicenseChooser.Proofs.Pairs
import LicenseChooser.Proofs.Text.Utf8
import LicenseChooser.Proofs.Url.Segments

/-!
One request and what becomes of it. Nothing is sent for a URL that no request can be made for; a
request that is answered with success is the only one.
-/

namespace LicenseChooser.Http

open Text Url

theorem Dialogue.first?_map {α β : Type} (f : α → β) (d : Dialogue α) :
    (d.map f).first? = d.first? := by
  cases d <;> rfl

theorem first?_follow (left : Nat) (r : Request) : (follow left r).first? = some r := by
  rw [follow, Dialogue.first?]

section Exchange

variable {method : Method} {url : Url} {parts : List Part}

theorem exchange_of_sendable (h : isSendable (extractAuthorization url).1 = true) :
    exchange method url parts = follow maxRedirects
      ⟨method, (extractAuthorization url).1, (extractAuthorization url).2, parts⟩ :=
  if_pos h

theorem exchange_of_not_sendable (h : isSendable (extractAuthorization url).1 = false) :
    exchange method url parts =
      .done (.error (.building (extractAuthorization url).1.toString)) :=
  if_neg (Bool.eq_false_iff.1 h)

theorem exchange_of_first? {r : Request} (h : (exchange method url parts).first? = some r) :
    exchange method url parts = follow maxRedirects r := by
  cases hs : isSendable (extractAuthorization url).1 with
  | true =>
      rw [exchange_of_sendable hs, first?_follow, Option.some.injEq] at h
      rw [exchange_of_sendable hs, h]
  | false =>
      rw [exchange_of_not_sendable hs] at h
      cases h

end Exchange

/-- A response that brings all of this text. -/
structure Response.Brings (response : Response) (text : String) : Prop where
  success : response.isSuccess = true
  complete : response.complete = true
  text : response.text = text

theorem redirected?_of_success (r : Request) {response : Response}
    (h : response.isSuccess = true) : redirected? r response = none := by
  rw [Response.isSuccess, Bool.and_eq_true, decide_eq_true_eq, decide_eq_true_eq] at h
  rw [redirected?, if_neg (by omega), if_neg (by omega)]

/-- A request goes out for `url`, and whatever was asked before it is answered with `text`. -/
def Server.Serves (server : Server) (url : Url) (text : String) : Prop :=
  ∃ r, (exchange .get url []).first? = some r ∧
    ∀ sent, ∃ response, server sent r = some response ∧ response.Brings text

theorem Server.Serves.ensures {server : Server} {url : Url} {text : String}
    (h : server.Serves url text) :
    (exchange .get url []).Ensures server
      fun o => ∃ response, o = .ok response ∧ response.Brings text := by
  obtain ⟨r, hr, hanswers⟩ := h
  rw [exchange_of_first? hr, follow]
  intro sent
  obtain ⟨response, hresponse, hbrings⟩ := hanswers sent
  rw [hresponse]
  simp only [redirected?_of_success r hbrings.success]
  exact ⟨response, rfl, hbrings⟩

/-- A server with one page at each of some places. -/
def Server.ofPages (pages : List (String × String)) : Server := fun _ r =>
  (pages.lookup r.target).map fun text => ⟨200, [], encodeUtf8 text.toList, true⟩

/-- Text that begins with markup cannot be taken for a byte order mark. -/
theorem text_utf8 {text : String} (h : text.toList.head? = some '<') :
    (Response.mk 200 [] (encodeUtf8 text.toList) true).text = text := by
  obtain ⟨rest, hrest⟩ := List.head?_eq_some_iff.1 h
  have hmark : byteOrderMark? (encodeUtf8 text.toList) = none := by
    rw [hrest]
    rfl
  simp only [Response.text, hmark]
  exact (congrArg String.ofList (decodeUtf8_encodeUtf8 text.toList)).trans String.ofList_toList

theorem serves_ofPages {pages : List (String × String)} (hnodup : (pages.map (·.1)).Nodup)
    {url : Url} {text : String} (hsend : isSendable (extractAuthorization url).1 = true)
    (hpage : (url.wire, text) ∈ pages) (hmarkup : text.toList.head? = some '<') :
    (Server.ofPages pages).Serves url text := by
  rw [Server.Serves, exchange_of_sendable hsend, first?_follow]
  refine ⟨_, rfl, fun _ => ⟨_, ?_, rfl, rfl, text_utf8 hmarkup⟩⟩
  exact Option.map_eq_some_iff.2 ⟨text, lookup_of_mem hnodup hpage, rfl⟩

end LicenseChooser.Http
