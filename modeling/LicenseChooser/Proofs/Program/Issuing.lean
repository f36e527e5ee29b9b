import LicenseChooser.Proofs.Answers.Order
import LicenseChooser.Proofs.Catalog.Issuing
import LicenseChooser.Proofs.CommandLine.Answers
import LicenseChooser.Proofs.Program.Settings

/-!
Issuing a license from the command line. Answers that assign nothing are refused with the command line;
all others go out in one document, in which each field has one value, or not at all.
-/

namespace LicenseChooser

open CommandLine Http Text Url

theorem acceptable_ofList_iff {id : String} {pairs : List (String × String)} :
    Acceptable id (.ofList pairs) ↔ IsNameText id ∧ ∀ p ∈ pairs, IsKey p.1 := by
  have hkeys : (∀ a ∈ (Answers.ofList pairs).items, IsKey a.1) ↔ ∀ p ∈ pairs, IsKey p.1 := by
    rw [Answers.items_ofList, ← List.forall_mem_map (f := Prod.fst), keys_latest]
    simp
  exact ⟨fun h => ⟨h.id, hkeys.1 h.keys⟩, fun h => ⟨h.1, hkeys.2 h.2⟩⟩

theorem sent_yields (value : Option String) (nothing : String) (verbosity : Nat)
    (log : List Log.Line) (sent : List Request) :
    (yields value nothing verbosity log sent).sent = sent := by
  cases value <;> rfl

section Perform

variable {w : World} {c : Client} {i : Invocation} {log : List Log.Line} {id locale : String}
  {pairs : List (String × String)}

theorem sent_perform_issue (hcommand : i.command = .issue id locale pairs) :
    (perform w c i log).sent = (c.tryResolve id locale (.ofList pairs)).asked w.server [] := by
  have hsent := Dialogue.sent_run w.server (c.tryResolve id locale (.ofList pairs)) []
  rw [List.nil_append] at hsent
  rw [perform, hcommand]
  dsimp only
  rw [sent_yields, Client.resolve, Dialogue.run_map, hsent]

theorem perform_issue_of_error (hcommand : i.command = .issue id locale pairs) {e : Failure}
    (h : c.tryResolve id locale (.ofList pairs) = .done (.error e)) :
    (perform w c i log).sent = [] ∧ (perform w c i log).exit = 1 := by
  rw [perform, hcommand]
  dsimp only
  rw [Client.resolve, h]
  exact ⟨rfl, rfl⟩

end Perform

/-- The outcome where a license is to be issued for these pairs. -/
structure Outcome.Issues (o : Outcome) (c : Client) (id locale : String)
    (pairs : List (String × String)) (url : Url) : Prop where
  formed : c.issueUrl id = .ok url
  posted : (∀ p ∈ pairs, IsKey p.1) → isSendable (extractAuthorization url).1 = true →
    ∃ r, o.sent.head? = some r ∧ r.method = .post ∧ r.target = url.wire ∧
      r.parts = [⟨"answers", answersText id locale (latest pairs)⟩]
  unsent : (∃ p ∈ pairs, ¬ IsKey p.1) ∨ isSendable (extractAuthorization url).1 = false →
    o.sent = [] ∧ o.exit = 1

theorem issues_perform {w : World} {s : ClientSettings} {c : Client}
    (hclient : Client.create s = .ok c) {i : Invocation} {id locale : String}
    {pairs : List (String × String)} (hid : IsNameText id)
    (hcommand : i.command = .issue id locale pairs) (log : List Log.Line) :
    ∃ url, (perform w c i log).Issues c id locale pairs url := by
  obtain ⟨url, hurl⟩ := endpoint_of_create hclient Operation.resolveUri ["license", id, "issue"]
  refine ⟨url, hurl, fun hkeys hsend => ?_, fun h => ?_⟩
  · have hpayload := answerPayload_of_acceptable (acceptable_ofList_iff.2 ⟨hid, hkeys⟩) locale
    rw [toXml_answersSource, Answers.items_ofList] at hpayload
    rw [sent_perform_issue hcommand, Dialogue.head?_asked,
      Client.tryResolve_of_payload hpayload hurl, first?_request hsend]
    exact ⟨_, rfl, rfl, rfl, rfl⟩
  · by_cases hkeys : ∀ p ∈ pairs, IsKey p.1
    · have hsend := h.resolve_left fun ⟨p, hp, hkey⟩ => hkey (hkeys p hp)
      have hpayload := answerPayload_of_acceptable (acceptable_ofList_iff.2 ⟨hid, hkeys⟩) locale
      apply perform_issue_of_error hcommand
      rw [Client.tryResolve_of_payload hpayload hurl, request_of_not_sendable hsend]
    · have hbad : ¬ Acceptable id (.ofList pairs) := fun h => hkeys (acceptable_ofList_iff.1 h).2
      obtain ⟨e, he, -⟩ := exists_of_not_acceptable hbad locale
      exact perform_issue_of_error hcommand (Client.tryResolve_of_error he)

/-- Given a command line `base` that is accepted without answers, and answers put in anywhere: if one of
them assigns nothing, the command line is refused; and if each assigns a value to a field, a document
goes out that has one value for each field, unless a field is no key or no request can be made. -/
theorem run_issue {w : World} {before args base : List String} {l : Level} {outer items : List Item}
    {i : Invocation} {s : ClientSettings} {c : Client} {id locale : String}
    (houter : topLevel.Says before outer) (hlevel : commandLevels.lookup "issue" = some l)
    (hargs : l.SaysAll args items) (hbase : l.SaysAll base (without "answer" items))
    (hparse : parse (before ++ "issue" :: base) = .ok i) (hcommand : i.command = .issue id locale [])
    (hsettings : effectiveSettings w i = .ok s) (hclient : Client.create s = .ok c)
    (hid : IsNameText id) :
    ((∃ raw ∈ valuesOf "answer" items, Unassigned raw) →
      (run w (before ++ "issue" :: args)).exit = 2 ∧
      (run w (before ++ "issue" :: args)).sent = []) ∧
    ((∀ raw ∈ valuesOf "answer" items, ¬ Unassigned raw) →
      ∃ pairs url, List.Forall₂ Assigns (valuesOf "answer" items) pairs ∧
        (run w (before ++ "issue" :: args)).Issues c id locale pairs url) := by
  obtain ⟨id', locale', hcommand', hasked, hrefused⟩ :=
    parse_answers houter hlevel hargs hbase hparse
  rw [hcommand] at hcommand'
  cases hcommand'
  refine ⟨fun hbad => ?_, fun hall => ?_⟩
  · obtain ⟨e, he⟩ := hrefused hbad
    rw [run, he]
    exact ⟨rfl, rfl⟩
  · let pairs := (valuesOf "answer" items).filterMap assignment?
    let asked : Invocation := { i with command := .issue id locale pairs }
    have hinvoke : invoke w asked = perform w c asked [readyLine c] :=
      invoke_of_create hsettings hclient
    obtain ⟨url, hissues⟩ := issues_perform (w := w) (i := asked) hclient hid rfl [readyLine c]
    refine ⟨pairs, url, forall₂_assigns hall, ?_⟩
    rw [run, hasked hall]
    dsimp only
    rwa [hinvoke]

theorem run_issue_repeated :
    let w : World := ⟨fun _ => .failed .missing, ⟨"/w", none⟩, Server.unreachable, [], false⟩
    let before := ["-q", "--root-url=http://h:8080/rest"]
    let args := ["standard", "--answer= a =x=y ", "--locale", "de", "--answer", "b=<&>",
      "--answer=a="]
    let raws := [" a =x=y ", "b=<&>", "a="]
    (run w (before ++ "issue" :: args)).sent.map (·.parts) = [[⟨"answers",
      "<answers> <locale>de</locale><license-standard><a></a><b>&lt;&amp;&gt;</b>" ++
        "</license-standard></answers>"⟩]] ∧
    ∃ c pairs url, List.Forall₂ Assigns raws pairs ∧
      (run w (before ++ "issue" :: args)).Issues c "standard" "de" pairs url := by
  intro w before args raws
  let base := ["standard", "--locale", "de"]
  let root : Url := ⟨"http", some ⟨"", none, some (.name "h"), some 8080⟩, .segments ["rest"], none,
    none⟩
  let i : Invocation := ⟨none, some "http://h:8080/rest", [], 0, true, .issue "standard" "de" []⟩
  let s : ClientSettings := ⟨root, ["recombo", "mark"], 5, 10000⟩
  let quiet : OptionSpec := generalOptions[4]
  let rootUrl : OptionSpec := generalOptions[1]
  let l : Level := (commandLevels.lookup "issue").get rfl
  have hlevel : commandLevels.lookup "issue" = some l := rfl
  have hlong : l.long? "answer" = some (.option answerOption) := rfl
  have houter : topLevel.Says before [.option quiet [], .option rootUrl ["http://h:8080/rest"]] :=
    @Level.Says.letters topLevel ['q'] [quiet] _ _ (by decide) (by decide) (.cons rfl .nil)
      (@Level.Says.attached topLevel "root-url" "http://h:8080/rest" rootUrl _ _ rfl (by decide) rfl
        .nil)
  have hbase : l.Says base [.operand "standard", .option localeOption ["de"]] :=
    .operand rfl (by decide)
      (@Level.Says.apart l "locale" "de" localeOption _ _ rfl (by decide) (by decide) rfl rfl .nil)
  have hargs : l.Says args [.operand "standard", .option answerOption [" a =x=y "],
      .option localeOption ["de"], .option answerOption ["b=<&>"], .option answerOption ["a="]] := by
    refine .operand rfl (by decide) ?_
    refine @Level.Says.attached l "answer" " a =x=y " answerOption _ _ hlong (by decide) rfl ?_
    refine @Level.Says.apart l "locale" "de" localeOption _ _ rfl (by decide) (by decide) rfl rfl ?_
    refine @Level.Says.apart l "answer" "b=<&>" answerOption _ _ hlong (by decide) (by decide) rfl
      rfl ?_
    exact @Level.Says.attached l "answer" "a=" answerOption _ _ hlong (by decide) rfl .nil
  have hparse : (parse (before ++ "issue" :: base)).toOption = some i := by decide +kernel
  have hsettings : (effectiveSettings w i).toOption = some s := by decide +kernel
  have hid : IsNameText "standard" := List.all_eq_true.1 (by decide)
  have hassigned : ∀ raw ∈ raws, ¬ Unassigned raw := by
    simp only [raws, List.forall_mem_cons, not_unassigned_iff]
    refine ⟨⟨("a", "x=y "), " a ", rfl, by decide, rfl, by decide⟩,
      ⟨("b", "<&>"), "b", rfl, by decide, rfl, by decide⟩,
      ⟨("a", ""), "a", rfl, by decide, rfl, by decide⟩, ?_⟩
    simp
  exact ⟨by decide +kernel, ⟨root, ["recombo", "mark"], 5⟩,
    (run_issue houter hlevel (.plain hargs) (.plain hbase) (eq_ok_of_toOption hparse) rfl
      (eq_ok_of_toOption hsettings) rfl hid).2 hassigned⟩

/-- Nothing is sent to a host with braces in its name, however good the answers are. -/
theorem run_issue_unsent :
    let w : World := ⟨fun _ => .failed .missing, ⟨"/w", none⟩, Server.unreachable, [], false⟩
    let args := ["--root-url=http://{x}/", "issue", "standard", "--answer=a=b=c"]
    Assigns "a=b=c" ("a", "b=c") ∧ IsKey "a" ∧ IsNameText "standard" ∧
    (∃ i s c, parse args = .ok i ∧ i.command = .issue "standard" "en" [("a", "b=c")] ∧
      effectiveSettings w i = .ok s ∧ s.root.scheme = "http" ∧ Client.create s = .ok c) ∧
    (run w args).sent = [] ∧ (run w args).exit = 1 := by
  intro w args
  let root : Url := ⟨"http", some ⟨"", none, some (.name "{x}"), none⟩, .segments [""], none,
    none⟩
  let i : Invocation :=
    ⟨none, some "http://{x}/", [], 0, false, .issue "standard" "en" [("a", "b=c")]⟩
  have hassigns : Assigns "a=b=c" ("a", "b=c") := ⟨"a", rfl, by decide, rfl, by decide⟩
  have hkey : IsKey "a" := (isElementName_iff "a").1 (by decide)
  have hid : IsNameText "standard" := List.all_eq_true.1 (by decide)
  have hparse : (parse args).toOption = some i := by decide +kernel
  have hsettings : (effectiveSettings w i).toOption = some ⟨root, ["recombo", "mark"], 5, 10000⟩ := by
    decide +kernel
  exact ⟨hassigns, hkey, hid, ⟨i, _, ⟨root, ["recombo", "mark"], 5⟩, eq_ok_of_toOption hparse, rfl,
    eq_ok_of_toOption hsettings, rfl, rfl⟩, by decide +kernel, by decide +kernel⟩

end LicenseChooser
