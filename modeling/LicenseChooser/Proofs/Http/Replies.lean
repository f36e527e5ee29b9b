import LicenseChooser.Proofs.Http.Exchange

/-!
What goes out and what comes back when a dialogue runs alone. A request that is followed through its
redirects comes to a response with success exactly if one came back, and the bodies of all other
responses change nothing.
-/

namespace LicenseChooser.Http

variable {α β : Type}

namespace Dialogue

theorem head?_asked (server : Server) (d : Dialogue α) (before : List Request) :
    (d.asked server before).head? = d.first? := by
  cases d <;> rfl

/-- It comes to a result when exactly these replies come in. -/
inductive Takes : Dialogue α → List Reply → α → Prop
  | done (a : α) : Takes (done a) [] a
  | ask (r : Request) {next : Reply → Dialogue α} {reply : Reply} {replies : List Reply} {a : α}
      (h : Takes (next reply) replies a) : Takes (ask r next) (reply :: replies) a

theorem takes_replies (server : Server) (d : Dialogue α) (before : List Request) :
    d.Takes (d.replies server before) (d.run server before).1 := by
  induction d generalizing before with
  | done a => exact .done a
  | ask r next ih => exact .ask r (ih (server before r) (before ++ [r]))

theorem exists_takes_of_after {d : Dialogue α} {replies : List Reply} {a : α}
    (h : d.after replies = some a) : ∃ taken, taken <+: replies ∧ d.Takes taken a := by
  induction d generalizing replies with
  | done b =>
      cases h
      exact ⟨[], List.nil_prefix, .done a⟩
  | ask r next ih =>
      cases replies with
      | nil => cases h
      | cons reply replies =>
          obtain ⟨taken, htaken, ha⟩ := ih reply h
          exact ⟨reply :: taken, List.prefix_cons_inj reply |>.2 htaken, .ask r ha⟩

theorem exists_takes_of_map {f : α → β} {d : Dialogue α} {replies : List Reply} {b : β}
    (h : (d.map f).Takes replies b) : ∃ a, d.Takes replies a ∧ f a = b := by
  induction d generalizing replies with
  | done a =>
      cases h
      exact ⟨a, .done a, rfl⟩
  | ask r next ih =>
      cases h with
      | ask _ h =>
          obtain ⟨a, ha, hb⟩ := ih _ h
          exact ⟨a, .ask r ha, hb⟩

end Dialogue

/-- One of the replies is a response with success, all of it arrived, and this is its text. -/
def Brought (replies : List Reply) (text : String) : Prop :=
  ∃ response, some response ∈ replies ∧ response.Brings text

theorem Brought.mono {replies replies' : List Reply} {text : String} (h : Brought replies text)
    (hsub : replies ⊆ replies') : Brought replies' text := by
  obtain ⟨response, hmem, hbrings⟩ := h
  exact ⟨response, hsub hmem, hbrings⟩

/-- The replies to a request and to those that it is redirected to, and what they come to. -/
inductive Follows : Request → List Reply → Except TransportError Response → Prop
  | lost (r : Request) (e : TransportError) : Follows r [none] (.error e)
  | kept {r : Request} {response : Response} (h : redirected? r response = none) :
      Follows r [some response] (.ok response)
  | stopped {r next : Request} {response : Response} (h : redirected? r response = some next)
      (e : TransportError) : Follows r [some response] (.error e)
  | redirected {r next : Request} {response : Response} {replies : List Reply}
      {o : Except TransportError Response} (h : redirected? r response = some next)
      (ho : Follows next replies o) : Follows r (some response :: replies) o

theorem follows_of_takes {left : Nat} {r : Request} {replies : List Reply}
    {o : Except TransportError Response} (h : (follow left r).Takes replies o) :
    Follows r replies o := by
  induction left using Nat.strongRecOn generalizing r replies with
  | ind left ih =>
      rw [follow] at h
      cases h with
      | @ask _ _ reply replies _ h =>
          cases reply with
          | none =>
              cases h
              exact .lost r _
          | some response =>
              cases hr : redirected? r response with
              | none =>
                  simp only [hr] at h
                  cases h
                  exact .kept hr
              | some next =>
                  simp only [hr] at h
                  cases left with
                  | zero =>
                      cases h
                      exact .stopped hr _
                  | succ k =>
                      dsimp only at h
                      split at h
                      · exact .redirected hr (ih k (Nat.lt_succ_self k) h)
                      · cases h
                        exact .stopped hr _

/-- A response with success is never asked to be followed further. -/
theorem Follows.mem_iff {r : Request} {replies : List Reply} {o : Except TransportError Response}
    (h : Follows r replies o) {response : Response} (hs : response.isSuccess = true) :
    some response ∈ replies ↔ o = .ok response := by
  have hne : ∀ {r next : Request} {first : Response}, redirected? r first = some next →
      response ≠ first := by
    rintro r next first hr rfl
    rw [redirected?_of_success r hs] at hr
    cases hr
  induction h with
  | lost r e => simp
  | kept h => simp [eq_comm]
  | stopped h e => simpa using hne h
  | redirected h ho ih =>
      rw [List.mem_cons, Option.some.injEq, or_iff_right (hne h)]
      exact ih

theorem mem_iff_of_takes_exchange {method : Method} {url : Url} {parts : List Part}
    {replies : List Reply} {o : Except TransportError Response}
    (h : (exchange method url parts).Takes replies o) {response : Response}
    (hs : response.isSuccess = true) : some response ∈ replies ↔ o = .ok response := by
  cases hsend : isSendable (extractAuthorization url).1 with
  | true =>
      rw [exchange_of_sendable hsend] at h
      exact (follows_of_takes h).mem_iff hs
  | false =>
      rw [exchange_of_not_sendable hsend] at h
      cases h
      simp

/-- The same response, but with nothing of its body unless it is one with success. -/
def Response.withoutFailedBody (response : Response) : Response :=
  if response.isSuccess then response else { response with body := [], complete := false }

/-- Both servers give the same replies, but for the bodies of responses without success. -/
def Server.AgreesUpToFailures (server' server : Server) : Prop :=
  ∀ before r, (server' before r).map Response.withoutFailedBody =
    (server before r).map Response.withoutFailedBody

theorem redirected?_withoutFailedBody (r : Request) (response : Response) :
    redirected? r response.withoutFailedBody = redirected? r response := by
  rw [Response.withoutFailedBody]
  split <;> rfl

theorem run_follow_congr {server' server : Server} (h : server'.AgreesUpToFailures server)
    (left : Nat) (r : Request) (before : List Request) :
    ((follow left r).run server' before).1.map Response.withoutFailedBody =
      ((follow left r).run server before).1.map Response.withoutFailedBody ∧
    ((follow left r).run server' before).2 = ((follow left r).run server before).2 := by
  induction left using Nat.strongRecOn generalizing r before with
  | ind left ih =>
      have hreply := h before r
      rw [follow, Dialogue.run, Dialogue.run]
      generalize server' before r = reply' at hreply
      generalize server before r = reply at hreply
      cases reply' with
      | none =>
          rw [Option.map_none, eq_comm, Option.map_eq_none_iff] at hreply
          rw [hreply]
          exact ⟨rfl, rfl⟩
      | some response' =>
          rw [Option.map_some, eq_comm, Option.map_eq_some_iff] at hreply
          obtain ⟨response, rfl, hsame⟩ := hreply
          have hnext : redirected? r response' = redirected? r response := by
            rw [← redirected?_withoutFailedBody, ← hsame, redirected?_withoutFailedBody]
          cases hr : redirected? r response with
          | none =>
              simp only [hnext, hr]
              exact ⟨congrArg Except.ok hsame.symm, rfl⟩
          | some next =>
              simp only [hnext, hr]
              cases left with
              | zero => exact ⟨rfl, rfl⟩
              | succ k =>
                  dsimp only
                  split
                  · exact ih k (Nat.lt_succ_self k) next (before ++ [r])
                  · exact ⟨rfl, rfl⟩

theorem run_exchange_congr {server' server : Server} (h : server'.AgreesUpToFailures server)
    (method : Method) (url : Url) (parts : List Part) (before : List Request) :
    ((exchange method url parts).run server' before).1.map Response.withoutFailedBody =
      ((exchange method url parts).run server before).1.map Response.withoutFailedBody ∧
    ((exchange method url parts).run server' before).2 =
      ((exchange method url parts).run server before).2 := by
  cases hsend : isSendable (extractAuthorization url).1 with
  | true =>
      rw [exchange_of_sendable hsend]
      exact run_follow_congr h _ _ _
  | false =>
      rw [exchange_of_not_sendable hsend]
      exact ⟨rfl, rfl⟩

theorem run_map_exchange_congr {f : Except TransportError Response → α}
    (hf : ∀ o, f (o.map Response.withoutFailedBody) = f o) {server' server : Server}
    (h : server'.AgreesUpToFailures server) (method : Method) (url : Url) (parts : List Part)
    (before : List Request) :
    ((exchange method url parts).map f).run server' before =
      ((exchange method url parts).map f).run server before := by
  obtain ⟨hsame, hsent⟩ := run_exchange_congr h method url parts before
  rw [Dialogue.run_map, Dialogue.run_map, ← hf, hsame, hf, hsent]

end LicenseChooser.Http
