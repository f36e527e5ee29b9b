import LicenseChooser.Proofs.Catalog.Issuing
import LicenseChooser.Proofs.License.Defects

/-!
Why an operation failed. The kind of its failure says where it happened: in the input before
anything was sent, on the way, in the text of the response, or in what that text should hold.
Nothing else has a part in it, in particular no body of a response without success.
-/

namespace LicenseChooser

open Http Markup Text

variable {α β : Type}

/-- The kind of its failure, none if it is a value. -/
def failureKind? : Except Failure α → Option Failure.Kind
  | .ok _ => none
  | .error e => some e.kind

/-- What becomes of an operation with this input and these replies, where a document must be
`wanted`: the kind of its failure, or none. -/
inductive Verdict (accepted : Prop) (wanted : Document → Prop) (replies : List Reply) :
    Option Failure.Kind → Prop
  | rejected (hinput : ¬ accepted) : Verdict accepted wanted replies (some .invalidInput)
  | unanswered (hinput : accepted) (hnone : ∀ text, ¬ Brought replies text) :
      Verdict accepted wanted replies (some .transport)
  | malformed (hinput : accepted) {text : String} (htext : Brought replies text)
      {e : DocumentError} (herror : Document.parse text = .error e) :
      Verdict accepted wanted replies (some .parse)
  | lacking (hinput : accepted) {text : String} (htext : Brought replies text)
      {d : Document} (hread : Document.parse text = .ok d) (hlacks : ¬ wanted d) :
      Verdict accepted wanted replies (some .notFound)
  | found (hinput : accepted) {text : String} (htext : Brought replies text)
      {d : Document} (hread : Document.parse text = .ok d) (hwanted : wanted d) :
      Verdict accepted wanted replies none

/-- The failures of an operation say where they happened, and nothing is sent for input that is not
accepted. -/
structure Classified (d : Dialogue (Except Failure α)) (accepted : Prop)
    (wanted : Document → Prop) : Prop where
  verdict : ∀ server before kind, failureKind? (d.run server before).1 = kind ↔
    Verdict accepted wanted (d.replies server before) kind
  unsent : ¬ accepted → ∀ server before, d.asked server before = []
  bodies : ∀ server' server : Server, server'.AgreesUpToFailures server →
    ∀ before, d.run server' before = d.run server before

/-- The plain form of an operation: the same requests, and the value or an empty one. -/
structure Softens (plain : Dialogue (Client.Logged β)) (typed : Dialogue (Except Failure α))
    (value : α → β) (empty : β) : Prop where
  ok : ∀ server before a, (typed.run server before).1 = .ok a →
    (plain.run server before).1.1 = value a
  error : ∀ server before e, (typed.run server before).1 = .error e →
    (plain.run server before).1.1 = empty
  sent : ∀ server before, (plain.run server before).2 = (typed.run server before).2

theorem softens_orElse (d : Dialogue (Except Failure α)) (value : α → β) (empty : β)
    (line : Failure → List Log.Line) :
    Softens (d.map (Client.orElse value empty line)) d value empty where
  ok server before a h := by
    rw [Dialogue.run_map, h]
    rfl
  error server before e h := by
    rw [Dialogue.run_map, h]
    rfl
  sent server before := by rw [Dialogue.run_map]

theorem Classified.ne_notFound {d : Dialogue (Except Failure α)} {accepted : Prop}
    (h : Classified d accepted fun _ => True) (server : Server) (before : List Request) :
    failureKind? (d.run server before).1 ≠ some .notFound := by
  intro hkind
  cases (h.verdict server before _).1 hkind with
  | lacking _ _ _ hlacks => exact hlacks trivial

section Request

variable {operation : String} {defect? : Document → Option String}
  {parse : String → Except Failure α} {accepted : Prop} {wanted : Document → Prop}

section Bind

variable {replies : List Reply} {o : Except Failure String}
  (hok : ∀ text, o = .ok text ↔ Brought replies text)
  (herror : ∀ e, o = .error e → e.kind = .transport) (hparse : Judges operation defect? parse)
  (hwanted : ∀ d, defect? d = none ↔ wanted d) (hinput : accepted)
include hok herror hparse hwanted hinput

theorem verdict_bind : Verdict accepted wanted replies (failureKind? (o.bind parse)) := by
  cases o with
  | error e =>
      have hkind : failureKind? ((Except.error e).bind parse) = some .transport :=
        congrArg some (herror e rfl)
      rw [hkind]
      refine .unanswered hinput fun text htext => ?_
      cases (hok text).2 htext
  | ok text =>
      have htext := (hok text).1 rfl
      change Verdict accepted wanted replies (failureKind? (parse text))
      cases hread : Document.parse text with
      | error e =>
          rw [hparse.malformed hread]
          exact .malformed hinput htext hread
      | ok d =>
          cases hdefect : defect? d with
          | some node =>
              rw [hparse.missing hread hdefect]
              refine .lacking hinput htext hread fun hw => ?_
              rw [(hwanted d).2 hw] at hdefect
              cases hdefect
          | none =>
              obtain ⟨a, ha⟩ := hparse.ok hread hdefect
              rw [ha]
              exact .found hinput htext hread ((hwanted d).1 hdefect)

theorem failureKind?_bind {kind : Option Failure.Kind} (h : Verdict accepted wanted replies kind) :
    failureKind? (o.bind parse) = kind := by
  cases h with
  | rejected hreject => exact absurd hinput hreject
  | unanswered _ hnone =>
      cases o with
      | error e => exact congrArg some (herror e rfl)
      | ok text => exact absurd ((hok text).1 rfl) (hnone text)
  | @malformed _ text htext e hread =>
      rw [(hok text).2 htext]
      exact congrArg failureKind? (hparse.malformed hread)
  | @lacking _ text htext d hread hlacks =>
      obtain ⟨node, hdefect⟩ := Option.ne_none_iff_exists'.1 (mt (hwanted d).1 hlacks)
      rw [(hok text).2 htext]
      exact congrArg failureKind? (hparse.missing hread hdefect)
  | @found _ text htext d hread hw =>
      obtain ⟨a, ha⟩ := hparse.ok hread ((hwanted d).2 hw)
      rw [(hok text).2 htext]
      exact congrArg failureKind? ha

end Bind

variable {method : Method} {url : Url} {parts : List Part}

theorem classified_request (hparse : Judges operation defect? parse)
    (hwanted : ∀ d, defect? d = none ↔ wanted d) (hinput : accepted) :
    Classified (request operation method (.ok url) parts parse) accepted wanted where
  verdict server before kind := by
    have htakes := Dialogue.takes_replies server (request operation method (.ok url) parts parse)
      before
    obtain ⟨o, ho, hresult⟩ := Dialogue.exists_takes_of_map htakes
    have herror : ∀ e, o = .error e → e.kind = .transport := by
      rintro e rfl
      exact kind_of_takes_send ho
    rw [← hresult]
    constructor
    · rintro rfl
      exact verdict_bind (text_of_takes_send ho) herror hparse hwanted hinput
    · exact failureKind?_bind (text_of_takes_send ho) herror hparse hwanted hinput
  unsent hreject := absurd hinput hreject
  bodies server' server h before := by
    rw [request, Dialogue.run_map, Dialogue.run_map, run_send_congr h]

theorem classified_rejected {e : Failure} (hkind : e.kind = .invalidInput) (hreject : ¬ accepted) :
    Classified (.done (.error e) : Dialogue (Except Failure α)) accepted wanted where
  verdict server before kind := by
    have hfailure : failureKind? (.error e : Except Failure α) = some .invalidInput :=
      congrArg some hkind
    constructor
    · rintro rfl
      rw [Dialogue.run, hfailure]
      exact .rejected hreject
    · intro h
      cases h with
      | rejected => exact hfailure
      | unanswered hinput | malformed hinput | lacking hinput | found hinput =>
          exact absurd hinput hreject
  unsent _ _ _ := rfl
  bodies _ _ _ _ := rfl

end Request

namespace Client

section Operations

variable {s : ClientSettings} {c : Client} (h : Client.create s = .ok c)
include h

theorem classified_tryList (locale : String) :
    Classified (c.tryList locale) True fun _ => True := by
  obtain ⟨url, hurl⟩ := endpoint_of_create h Operation.listLicenses [""]
  rw [tryList, listUrl, hurl]
  exact classified_request (judges_licenseIds c.excluded) (by simp) trivial

theorem classified_tryGet (id : String) :
    Classified (c.tryGet id) True Document.DescribesClass := by
  obtain ⟨url, hurl⟩ := endpoint_of_create h Operation.getLicense ["license", id]
  rw [tryGet, licenseUrl, hurl]
  exact classified_request (judges_class id) Document.classDefect?_eq_none_iff trivial

theorem classified_tryResolve (id locale : String) (answers : Answers) :
    Classified (c.tryResolve id locale answers) (Acceptable id answers)
      Document.NamesLicense := by
  obtain ⟨url, hurl⟩ := endpoint_of_create h Operation.resolveUri ["license", id, "issue"]
  by_cases hinput : Acceptable id answers
  · rw [tryResolve_of_payload (answerPayload_of_acceptable hinput locale) hurl]
    exact classified_request judges_uri Document.uriDefect?_eq_none_iff hinput
  · obtain ⟨e, he, hkind⟩ := exists_of_not_acceptable hinput locale
    rw [tryResolve_of_error he]
    exact classified_rejected hkind hinput

theorem classified_tryDocument (uri : String) :
    Classified (c.tryDocument uri) (∃ u, Url.parse uri = .ok u) fun _ => True := by
  obtain ⟨url, hurl⟩ := endpoint_of_create h Operation.fetchDocument ["details"]
  rw [tryDocument]
  cases hparse : Url.parse uri with
  | error e =>
      refine classified_rejected rfl ?_
      rintro ⟨u, ⟨⟩⟩
  | ok u =>
      dsimp only
      rw [detailsUrl, hurl]
      exact classified_request (judges_document _) (by simp) ⟨u, rfl⟩

end Operations

/-- The failures of all four operations are classified, and the plain forms lose nothing else. A
list and a document can lack nothing. -/
structure ClassifiesFailures (c : Client) : Prop where
  list : ∀ locale, Classified (c.tryList locale) True fun _ => True
  get : ∀ id, Classified (c.tryGet id) True Document.DescribesClass
  resolve : ∀ id locale answers,
    Classified (c.tryResolve id locale answers) (Acceptable id answers) Document.NamesLicense
  document : ∀ uri, Classified (c.tryDocument uri) (∃ u, Url.parse uri = .ok u) fun _ => True
  listFound : ∀ locale server before,
    failureKind? ((c.tryList locale).run server before).1 ≠ some .notFound
  documentFound : ∀ uri server before,
    failureKind? ((c.tryDocument uri).run server before).1 ≠ some .notFound
  plainList : ∀ locale, Softens (c.list locale) (c.tryList locale) id []
  plainGet : ∀ id, Softens (c.get id) (c.tryGet id) some none
  plainResolve : ∀ id locale answers,
    Softens (c.resolve id locale answers) (c.tryResolve id locale answers) some none
  plainDocument : ∀ uri, Softens (c.document uri) (c.tryDocument uri) some none

theorem classifiesFailures_of_create {s : ClientSettings} {c : Client}
    (h : Client.create s = .ok c) : c.ClassifiesFailures where
  list := classified_tryList h
  get := classified_tryGet h
  resolve := classified_tryResolve h
  document := classified_tryDocument h
  listFound locale := (classified_tryList h locale).ne_notFound
  documentFound uri := (classified_tryDocument h uri).ne_notFound
  plainList _ := softens_orElse _ _ _ _
  plainGet _ := softens_orElse _ _ _ _
  plainResolve _ _ _ := softens_orElse _ _ _ _
  plainDocument _ := softens_orElse _ _ _ _

theorem classifiesFailures_of_create_lacking :
    let s := ClientSettings.ofRoot
      ⟨"http", some ⟨"", none, some (.name "h"), none⟩, .segments [""], none, none⟩
    let c : Client := ⟨s.root, [], 5⟩
    let server : Server := fun _ _ => some ⟨200, [], encodeUtf8 "<a/>".toList, true⟩
    Client.create s = .ok c ∧ c.ClassifiesFailures ∧
    failureKind? ((c.tryList "en").run server []).1 = none ∧
    failureKind? ((c.tryGet "x").run server []).1 = some .notFound ∧
    failureKind? ((c.tryGet "x").run .unreachable []).1 = some .transport ∧
    failureKind? ((c.tryResolve "/" "en" (.ofList [])).run server []).1 = some .invalidInput := by
  intro s c server
  have h : Client.create s = .ok c := rfl
  exact ⟨h, classifiesFailures_of_create h, by decide +kernel, by decide +kernel,
    by decide +kernel, by decide +kernel⟩

end Client

end LicenseChooser
