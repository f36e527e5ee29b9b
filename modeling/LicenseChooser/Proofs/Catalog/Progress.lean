import LicenseChooser.Proofs.Catalog.Completeness
import LicenseChooser.Proofs.Http.Limit

/-!
What is reported while a catalog is retrieved: first the number of classes on the list, and then each
of them when its own request has come to an end, whatever that end is. The schedule decides the order
of the reports and nothing else about them.
-/

namespace LicenseChooser

open Http

/-- Going through the positions of a list finds the list. -/
theorem filterMap_getElem?_range {α : Type} (xs : List α) :
    (List.range xs.length).filterMap (fun i => xs[i]?) = xs := by
  induction xs with
  | nil => rfl
  | cons x xs ih =>
      rw [List.length_cons, List.range_succ_eq_map, List.filterMap_cons, List.filterMap_map]
      exact congrArg (x :: ·) ih

namespace Client

variable (c : Client) (server : Server) (schedule : List Nat) (locale : String)

/-- Where the requests for the classes are when these turns have been taken. -/
def requested (turns : List Nat) : Interleaving ClassResult :=
  turns.foldl (Interleaving.turn server)
    (.start c.permits ((c.list locale).run server []).2 ((c.listed server locale).map c.tryGet))

/-- The reports on classes whose requests finished in this order of their positions. -/
def fetchedIn (positions : List Nat) : List Retrieval.Event :=
  positions.filterMap fun i => (c.listed server locale)[i]?.map .fetched

/-- What has been reported when these turns have been taken. -/
def reported (turns : List Nat) : List Retrieval.Event :=
  .listed (c.listed server locale).length ::
    c.fetchedIn server locale (c.requested server locale turns).finished

/-- The positions of the list in the order in which the requests for the classes finish. -/
def finishing : List Nat :=
  (Interleaving.run server c.permits schedule ((c.list locale).run server []).2
    ((c.listed server locale).map c.tryGet)).finished

theorem progress_eq : (c.retrieve server schedule locale).progress =
    .listed (c.listed server locale).length ::
      c.fetchedIn server locale (c.finishing server schedule locale) := rfl

theorem finishing_perm : (c.finishing server schedule locale).Perm
    (List.range (c.listed server locale).length) := by
  have h := Interleaving.finished_run_perm server c.permits schedule ((c.list locale).run server []).2
    ((c.listed server locale).map c.tryGet)
  rwa [List.length_map] at h

theorem finished_prefix_finishing {taken rest : List Nat} (h : schedule = taken ++ rest) :
    (c.requested server locale taken).finished <+: c.finishing server schedule locale := by
  rw [finishing, Interleaving.finished_run, h, List.foldl_append]
  exact (Interleaving.finished_prefix_turns server rest _).trans (List.prefix_append _ _)

theorem sent_prefix_retrieve {taken rest : List Nat} (h : schedule = taken ++ rest) :
    (c.requested server locale taken).sent <+: (c.retrieve server schedule locale).sent := by
  have hrest := Interleaving.sent_prefix_turns server rest (c.requested server locale taken)
  rw [requested, ← List.foldl_append, ← h] at hrest
  exact hrest.trans (Interleaving.sent_prefix_conclude server 0 _ _)

/-- When all requests have come to an end, all of them have been reported. -/
theorem finished_eq_finishing {taken rest : List Nat} (h : schedule = taken ++ rest)
    (hall : ∀ t ∈ (c.requested server locale taken).tasks, ∃ o, t = .finished o) :
    (c.requested server locale taken).finished = c.finishing server schedule locale := by
  apply (c.finished_prefix_finishing server schedule locale h).eq_of_length
  have hdone : c.finishing server taken locale = (c.requested server locale taken).finished := by
    rw [finishing, Interleaving.finished_run, Interleaving.closing]
    exact (congrArg _ (Interleaving.unfinished_eq_nil hall)).trans (List.append_nil _)
  rw [← hdone, (c.finishing_perm server taken locale).length_eq,
    (c.finishing_perm server schedule locale).length_eq]

theorem fetchedIn_eq (positions : List Nat) : c.fetchedIn server locale positions =
    (positions.filterMap fun i => (c.listed server locale)[i]?).map .fetched :=
  (List.map_filterMap ..).symm

theorem length_catalog : (c.listed server locale).length =
    (c.catalog server schedule locale).licenses.length +
      (c.catalog server schedule locale).failed.length := by
  obtain ⟨outcomes, hcatalog, hlength, -⟩ := c.results_retrieve server schedule locale
  rw [hcatalog, Catalog.length_ofResults, List.length_zip, hlength, Nat.min_self]

/-- What has been sent when these turns have been taken: the requests for the list, then at least the
first one for every class that is reported, and none for a class that the limit keeps waiting. -/
structure Sends (taken : List Nat) : Prop where
  reported : ∃ later,
    (c.requested server locale taken).sent = ((c.list locale).run server []).2 ++ later ∧
    ∀ (i : Nat) (id : String), (c.listed server locale)[i]? = some id →
      i ∈ (c.requested server locale taken).finished →
        ∀ r, (c.tryGet id).first? = some r → r ∈ later
  waiting : ∀ (i : Nat) (id : String), (c.listed server locale)[i]? = some id →
    (c.requested server locale taken).finished.length + c.permits ≤ i →
      (c.requested server locale taken).tasks[i]? = some (.running (c.tryGet id))

theorem sends_requested (taken : List Nat) : c.Sends server locale taken := by
  let sent := ((c.list locale).run server []).2
  let dialogues := (c.listed server locale).map c.tryGet
  have haccounted := Interleaving.accounted_start c.permits sent dialogues
  have hserved := (Interleaving.served_start c.permits sent dialogues).turns haccounted server taken
  have hdialogue : ∀ (i : Nat) (id : String), (c.listed server locale)[i]? = some id →
      dialogues[i]? = some (c.tryGet id) := by
    intro i id hid
    rw [List.getElem?_map, hid]
    rfl
  have hpermits := Interleaving.permits_turns server taken (.start c.permits sent dialogues)
  obtain ⟨hwaiting, later, hsent, hbegun⟩ := hserved
  refine ⟨⟨later, hsent, fun i id hid hfinished => ?_⟩, fun i id hid hi => ?_⟩
  · obtain ⟨o, ho⟩ := ((haccounted.turns server taken).mem_iff i).1 hfinished
    refine (hbegun i _ (hdialogue i id hid)).resolve_left fun hrunning => ?_
    rw [ho] at hrunning
    cases hrunning
  · have hi' := hwaiting i (by rw [hpermits]; exact hi)
    rwa [hdialogue i id hid] at hi'

/-- The reports begin with the length of the list, which is 0 if it failed, and go on with each class
of the list once. A class is reported when its request comes to an end, with a failure too, so all of
them are when the last one does. At every moment the requests behind the reports have been sent, and no
more classes are being asked for than the limit lets. The orders in which classes can be reported are
those that the limit allows. -/
theorem progress_reported :
    (∃ ids : List String,
      (c.retrieve server schedule locale).progress =
        .listed (c.listed server locale).length :: ids.map .fetched ∧
      ids.Perm (c.listed server locale) ∧ ids.length = (c.listed server locale).length) ∧
    ((∃ e, ((c.tryList locale).run server []).1 = .error e) →
      (c.retrieve server schedule locale).progress = [.listed 0]) ∧
    (c.listed server locale).length =
      (c.retrieve server schedule locale).catalog.licenses.length +
        (c.retrieve server schedule locale).catalog.failed.length ∧
    (c.reported server locale [] = [.listed (c.listed server locale).length] ∧
      (c.requested server locale []).sent = ((c.list locale).run server []).2) ∧
    (∀ taken rest, schedule = taken ++ rest →
      (∀ i, i ∈ (c.requested server locale taken).finished ↔
        ∃ o, (c.requested server locale taken).tasks[i]? = some (.finished o)) ∧
      c.reported server locale taken <+: (c.retrieve server schedule locale).progress ∧
      c.Sends server locale taken ∧
      (c.requested server locale taken).sent <+: (c.retrieve server schedule locale).sent ∧
      ((∀ t ∈ (c.requested server locale taken).tasks, ∃ o, t = .finished o) →
        c.reported server locale taken = (c.retrieve server schedule locale).progress)) ∧
    (0 < c.permits → ∀ positions : List Nat,
      (∃ schedule', c.finishing server schedule' locale = positions ∧
        (c.retrieve server schedule' locale).progress =
          .listed (c.listed server locale).length :: c.fetchedIn server locale positions) ↔
      positions.Perm (List.range (c.listed server locale).length) ∧
        Interleaving.Admissible c.permits positions) := by
  have hperm := (c.finishing_perm server schedule locale).filterMap
    fun i => (c.listed server locale)[i]?
  rw [filterMap_getElem?_range] at hperm
  refine ⟨⟨_, ?_, hperm, hperm.length_eq⟩, ?_, c.length_catalog server schedule locale, ⟨rfl, rfl⟩,
    ?_, ?_⟩
  · rw [progress_eq, fetchedIn_eq]
  · rintro ⟨e, he⟩
    rw [listed_of_error he, List.perm_nil] at hperm
    rw [progress_eq, fetchedIn_eq, listed_of_error he, hperm]
    rfl
  · intro taken rest h
    have haccounted := (Interleaving.accounted_start c.permits ((c.list locale).run server []).2
      ((c.listed server locale).map c.tryGet)).turns server taken
    refine ⟨haccounted.mem_iff, ?_, c.sends_requested server locale taken,
      c.sent_prefix_retrieve server schedule locale h, fun hall => ?_⟩
    · rw [progress_eq, reported, List.prefix_cons_inj]
      exact (c.finished_prefix_finishing server schedule locale h).filterMap _
    · rw [progress_eq, reported, c.finished_eq_finishing server schedule locale h hall]
  · intro hpermits positions
    have horders := Interleaving.exists_schedule_iff server hpermits
      ((c.list locale).run server []).2 ((c.listed server locale).map c.tryGet) positions
    rw [List.length_map] at horders
    rw [← horders]
    constructor
    · rintro ⟨schedule', hfinishing, -⟩
      exact ⟨schedule', hfinishing⟩
    · rintro ⟨schedule', hfinishing⟩
      exact ⟨schedule', hfinishing, by rw [progress_eq, finishing, hfinishing]⟩

end Client

end LicenseChooser
