import LicenseChooser.Catalog.Client
import LicenseChooser.Proofs.Except
import LicenseChooser.Proofs.Http.Replies

/-!
One request of the client. Every client that there is has a root below which URLs can be named, and
what is sent for such a URL comes to the text of the one response with success that all arrived, or
else to a failure on the way.
-/

namespace LicenseChooser

open Http Url

theorem exists_endpoint {root : Url} (h : root.isOpaque = false) (operation : String)
    (segments : List String) : ∃ url, endpoint operation root segments = .ok url := by
  rw [isOpaque] at h
  rw [endpoint]
  cases hpath : root.path with
  | segments parts => exact ⟨_, rfl⟩
  | opaqueText text =>
      rw [hpath] at h
      cases h

theorem endpoint_of_create {s : ClientSettings} {c : Client} (h : Client.create s = .ok c)
    (operation : String) (segments : List String) :
    ∃ url, endpoint operation c.root segments = .ok url := by
  have hroot : c.root = s.root ∧ s.root.isOpaque = false := by
    unfold Client.create at h
    split at h
    · cases h
    · rename_i hbase
      split at h
      · cases h
      · cases h
        exact ⟨rfl, Bool.eq_false_iff.2 hbase⟩
  obtain ⟨hsame, hbase⟩ := hroot
  rw [hsame]
  exact exists_endpoint hbase operation segments

section Send

variable {operation : String} {method : Method} {url : Url} {parts : List Part}
  {replies : List Reply}

theorem kind_of_takes_send {e : Failure}
    (h : (send operation method url parts).Takes replies (.error e)) : e.kind = .transport := by
  rw [send] at h
  obtain ⟨x, -, he⟩ := Dialogue.exists_takes_of_map h
  cases x with
  | error cause =>
      cases he
      rfl
  | ok response =>
      dsimp only at he
      split at he
      · cases he
        rfl
      · split at he
        · cases he
        · cases he
          rfl

/-- The text of the one response that is with success and complete, if there is one. -/
theorem text_of_takes_send {o : Except Failure String}
    (h : (send operation method url parts).Takes replies o) (text : String) :
    o = .ok text ↔ Brought replies text := by
  rw [send] at h
  obtain ⟨x, hx, rfl⟩ := Dialogue.exists_takes_of_map h
  have hbrought : Brought replies text ↔
      ∃ response, x = .ok response ∧ response.Brings text :=
    exists_congr fun response =>
      and_congr_left fun hbrings => mem_iff_of_takes_exchange hx hbrings.success
  rw [hbrought]
  cases x with
  | error cause => simp
  | ok response =>
      constructor
      · intro ho
        dsimp only at ho
        split at ho
        · cases ho
        · rename_i hsuccess
          split at ho
          · rename_i hcomplete
            cases ho
            exact ⟨response, rfl, by simpa using hsuccess, hcomplete, rfl⟩
          · cases ho
      · rintro ⟨_, ⟨⟩, hsuccess, hcomplete, rfl⟩
        simp only [hsuccess, hcomplete, Bool.not_true, Bool.false_eq_true, if_false, if_true]

theorem run_send_congr {server' server : Server} (h : server'.AgreesUpToFailures server)
    (before : List Request) :
    (send operation method url parts).run server' before =
      (send operation method url parts).run server before := by
  rw [send]
  apply run_map_exchange_congr _ h
  rintro (cause | response)
  · rfl
  · rw [Except.map, Response.withoutFailedBody]
    cases hsuccess : response.isSuccess with
    | true => rfl
    | false =>
        have hfailed : ({ response with body := [], complete := false } : Response).isSuccess =
            false := hsuccess
        simp only [hsuccess, hfailed, Bool.not_false, Bool.false_eq_true, if_true, if_false]

end Send

section Request

variable {α : Type} {operation : String} {method : Method} {url : Url} {parts : List Part}
  {parse : String → Except Failure α}

theorem first?_request (h : isSendable (extractAuthorization url).1 = true) :
    (request operation method (.ok url) parts parse).first? =
      some ⟨method, (extractAuthorization url).1, (extractAuthorization url).2, parts⟩ := by
  rw [request, Dialogue.first?_map, send, Dialogue.first?_map, exchange_of_sendable h,
    first?_follow]

theorem request_of_not_sendable (h : isSendable (extractAuthorization url).1 = false) :
    request operation method (.ok url) parts parse =
      .done (.error (.transport operation url.toString
        (.building (extractAuthorization url).1.toString))) := by
  rw [request, send, exchange_of_not_sendable h]
  rfl

/-- A request that comes to a value has read it in the text that was brought. -/
theorem brought_of_takes_request {url : Except Failure Url} {replies : List Reply} {a : α}
    (h : (request operation method url parts parse).Takes replies (.ok a)) :
    ∃ text, Brought replies text ∧ parse text = .ok a := by
  cases url with
  | error e => cases h
  | ok url =>
      rw [request] at h
      obtain ⟨o, ho, hresult⟩ := Dialogue.exists_takes_of_map h
      obtain ⟨text, rfl, hparse⟩ := exists_of_bind_eq_ok hresult
      exact ⟨text, (text_of_takes_send ho text).1 rfl, hparse⟩

end Request

end LicenseChooser
