import LicenseChooser.Proofs.Catalog.Failures
import LicenseChooser.Proofs.Program.Settings

/-!
What a run tells about the operations of its client. Its exit code says whether there is a result,
standard output holds that result and nothing else, and how much is logged changes neither.
-/

namespace LicenseChooser

open CommandLine Http

section Results

variable {α : Type}

/-- A command prints its result as `text` and ends well, or has none, prints nothing and fails. -/
structure Outcome.Prints (o : Outcome) (result : α → Prop) (text : α → String) : Prop where
  exit : o.exit = 0 ↔ ∃ a, result a
  printed : ∀ a, result a → o.out = text a
  nothing : (¬ ∃ a, result a) → o.exit = 1 ∧ o.out = ""

theorem prints_yields {value : Option α} {result : α → Prop} (h : ∀ a, value = some a ↔ result a)
    (text : α → String) (nothing : String) (verbosity : Nat) (log : List Log.Line)
    (sent : List Request) :
    (yields (value.map text) nothing verbosity log sent).Prints result text := by
  cases value with
  | none =>
      have hnone : ¬ ∃ a, result a := by
        rintro ⟨a, ha⟩
        cases (h a).2 ha
      exact ⟨⟨nofun, (absurd · hnone)⟩, fun a ha => absurd ⟨a, ha⟩ hnone, fun _ => ⟨rfl, rfl⟩⟩
  | some a =>
      have ha : ∃ a, result a := ⟨a, (h a).1 rfl⟩
      refine ⟨⟨fun _ => ha, fun _ => rfl⟩, fun b hb => ?_, fun hnone => absurd ha hnone⟩
      cases (h b).2 hb
      rfl

theorem yields_verbosity (value : Option String) (nothing : String) (v v' : Nat)
    (log : List Log.Line) (sent : List Request) :
    (yields value nothing v' log sent).exit = (yields value nothing v log sent).exit ∧
    (yields value nothing v' log sent).out = (yields value nothing v log sent).out := by
  cases value <;> exact ⟨rfl, rfl⟩

theorem Softens.eq_some_iff {plain : Dialogue (Client.Logged (Option α))}
    {typed : Dialogue (Except Failure α)} (h : Softens plain typed some none) (server : Server)
    (before : List Request) (a : α) :
    (plain.run server before).1.1 = some a ↔ (typed.run server before).1 = .ok a := by
  cases htyped : (typed.run server before).1 with
  | error e => rw [h.error server before e htyped]; exact ⟨nofun, nofun⟩
  | ok b => rw [h.ok server before b htyped, Option.some.injEq, Except.ok.injEq]

end Results

/-- What comes of the operations of a client says how the run of an invocation ends and all that it
prints. A list or a catalog that could not be retrieved is still one, with nothing in it. -/
structure Outcome.Tells (o : Outcome) (w : World) (c : Client) (i : Invocation) : Prop where
  list : ∀ locale, i.command = .list locale → o.exit = 0
  listed : ∀ locale, i.command = .list locale → i.quiet = true →
    ∀ ids, ((c.tryList locale).run w.server []).1 = .ok ids →
      o.out = String.join (ids.map (· ++ "\n"))
  unlisted : ∀ locale, i.command = .list locale → i.quiet = true →
    ∀ e, ((c.tryList locale).run w.server []).1 = .error e → o.out = ""
  catalog : ∀ locale format, i.command = .catalog locale format → o.exit = 0
  inspect : ∀ id format, i.command = .inspect id format →
    o.Prints (((c.tryGet id).run w.server []).1 = .ok ·) (reportLicense w.colors format)
  issue : ∀ id locale pairs, i.command = .issue id locale pairs →
    o.Prints (((c.tryResolve id locale (.ofList pairs)).run w.server []).1 = .ok ·) (· ++ "\n")
  details : ∀ uri, i.command = .details uri →
    o.Prints (fun name => ∃ d, ((c.tryDocument uri).run w.server []).1 = .ok d ∧
      d.licenseName? = some name) (reportName w.colors i.quiet uri)
  named : ∀ uri, i.command = .details uri → i.quiet = true →
    ∀ d name, ((c.tryDocument uri).run w.server []).1 = .ok d → d.licenseName? = some name →
      o.out = name ++ "\n"

theorem listing_quiet (colors : Bool) (locale : String) (ids : List String) :
    Report.listing colors true locale ids = String.join (ids.map (· ++ "\n")) := by
  rw [Report.listing, if_pos rfl, String.empty_append, Report.idLines]

theorem reportName_quiet (colors : Bool) (uri name : String) :
    reportName colors true uri name = name ++ "\n" := by
  rw [reportName, if_pos rfl, String.empty_append]

section Perform

variable {w : World} {c : Client} {i : Invocation} {log : List Log.Line}

theorem exit_perform_list {locale : String} (h : i.command = .list locale) :
    (perform w c i log).exit = 0 := by
  rw [perform, h]

theorem out_perform_list {locale : String} (h : i.command = .list locale) :
    (perform w c i log).out =
      Report.listing w.colors i.quiet locale ((c.list locale).run w.server []).1.1 := by
  rw [perform, h]

theorem exit_perform_catalog {locale : String} {format : ReportFormat}
    (h : i.command = .catalog locale format) : (perform w c i log).exit = 0 := by
  rw [perform, h]

theorem prints_perform_inspect {id : String} {format : ReportFormat}
    (h : i.command = .inspect id format) :
    (perform w c i log).Prints (((c.tryGet id).run w.server []).1 = .ok ·)
      (reportLicense w.colors format) := by
  rw [perform, h]
  exact prints_yields ((softens_orElse _ _ _ _).eq_some_iff w.server []) _ _ _ _ _

theorem prints_perform_issue {id locale : String} {pairs : List (String × String)}
    (h : i.command = .issue id locale pairs) :
    (perform w c i log).Prints
      (((c.tryResolve id locale (.ofList pairs)).run w.server []).1 = .ok ·) (· ++ "\n") := by
  rw [perform, h]
  exact prints_yields ((softens_orElse _ _ _ _).eq_some_iff w.server []) _ _ _ _ _

theorem prints_perform_details {uri : String} (h : i.command = .details uri) :
    (perform w c i log).Prints (fun name => ∃ d, ((c.tryDocument uri).run w.server []).1 = .ok d ∧
      d.licenseName? = some name) (reportName w.colors i.quiet uri) := by
  have hplain := (softens_orElse (c.tryDocument uri) some none
    (Client.documentFailure uri)).eq_some_iff w.server []
  rw [perform, h]
  refine prints_yields (fun name => ?_) _ _ _ _ _
  change (((c.document uri).run w.server []).1.1.bind (·.licenseName?)) = some name ↔ _
  rw [Option.bind_eq_some_iff, Client.document]
  simp only [hplain]

theorem tells_perform : (perform w c i log).Tells w c i where
  list locale h := exit_perform_list h
  listed locale h hquiet ids hids := by
    have hplain := (softens_orElse (c.tryList locale) id [] (Client.listFailure locale)).ok
      w.server [] ids hids
    rw [out_perform_list h, hquiet, listing_quiet, Client.list, hplain]
    rfl
  unlisted locale h hquiet e he := by
    have hplain := (softens_orElse (c.tryList locale) id [] (Client.listFailure locale)).error
      w.server [] e he
    rw [out_perform_list h, hquiet, listing_quiet, Client.list, hplain]
    rfl
  catalog locale format h := exit_perform_catalog h
  inspect id format h := prints_perform_inspect h
  issue id locale pairs h := prints_perform_issue h
  details uri h := prints_perform_details h
  named uri h hquiet d name hd hname := by
    rw [(prints_perform_details h).printed name ⟨d, hd, hname⟩, hquiet, reportName_quiet]

theorem Outcome.Prints.exit_cases {α : Type} {o : Outcome} {result : α → Prop} {text : α → String}
    (h : o.Prints result text) : o.exit = 0 ∨ o.exit = 1 := by
  by_cases hsome : ∃ a, result a
  · exact .inl (h.exit.2 hsome)
  · exact .inr (h.nothing hsome).1

theorem exit_perform (w : World) (c : Client) (i : Invocation) (log : List Log.Line) :
    (perform w c i log).exit = 0 ∨ (perform w c i log).exit = 1 := by
  cases hcommand : i.command with
  | list => exact .inl (tells_perform.list _ hcommand)
  | catalog => exact .inl (tells_perform.catalog _ _ hcommand)
  | inspect => exact (tells_perform.inspect _ _ hcommand).exit_cases
  | issue => exact (tells_perform.issue _ _ _ hcommand).exit_cases
  | details => exact (tells_perform.details _ hcommand).exit_cases

theorem perform_verbosity (v : Nat) :
    (perform w c { i with verbosity := v } log).exit = (perform w c i log).exit ∧
    (perform w c { i with verbosity := v } log).out = (perform w c i log).out := by
  rw [perform, perform]
  dsimp only
  cases i.command with
  | list | catalog => exact ⟨rfl, rfl⟩
  | inspect | issue | details => exact yields_verbosity _ _ _ _ _ _

end Perform

/-- Exit code and standard output of a run agree with what comes of the operations of its client, and
how much is to be logged changes neither. -/
theorem run_tells {w : World} {args : List String} {i : Invocation} {s : ClientSettings}
    {c : Client} (hparse : parse args = .ok i) (hsettings : effectiveSettings w i = .ok s)
    (hclient : Client.create s = .ok c) :
    (run w args).Tells w c i ∧
    ∀ args' v, parse args' = .ok { i with verbosity := v } →
      (run w args').exit = (run w args).exit ∧ (run w args').out = (run w args).out := by
  have hrun : ∀ {args v}, parse args = .ok { i with verbosity := v } →
      run w args = perform w c { i with verbosity := v } [readyLine c] := by
    intro args v hparse
    rw [run, hparse]
    exact invoke_of_create hsettings hclient
  rw [hrun hparse]
  refine ⟨tells_perform, fun args' v hparse' => ?_⟩
  rw [hrun hparse']
  exact perform_verbosity v

theorem run_tells_name :
    let body := "<result><license-uri>u</license-uri><license-name> By </license-name></result>"
    let server : Server := fun _ _ => some ⟨200, [], Text.encodeUtf8 body.toList, true⟩
    let w : World := ⟨fun _ => .failed .missing, ⟨"/w", none⟩, server, [], true⟩
    let args := ["-q", "--root-url=http://h/", "details", "http://x/", "-vv"]
    let i : Invocation := ⟨none, some "http://h/", [], 2, true, .details "http://x/"⟩
    let root : Url := ⟨"http", some ⟨"", none, some (.name "h"), none⟩, .segments [""], none, none⟩
    let s : ClientSettings := ⟨root, ["recombo", "mark"], 5, 10000⟩
    let c : Client := ⟨root, ["recombo", "mark"], 5⟩
    parse args = .ok i ∧ effectiveSettings w i = .ok s ∧ Client.create s = .ok c ∧
    (run w args).out = "By\n" ∧ (run w args).Tells w c i ∧
    ∀ args' v, parse args' = .ok { i with verbosity := v } →
      (run w args').exit = (run w args).exit ∧ (run w args').out = (run w args).out := by
  intro body server w args i root s c
  have hparse : (parse args).toOption = some i := by decide +kernel
  have hsettings : (effectiveSettings w i).toOption = some s := by decide +kernel
  have hclient : Client.create s = .ok c := rfl
  have hout : (run w args).out = "By\n" := by decide +kernel
  exact ⟨eq_ok_of_toOption hparse, eq_ok_of_toOption hsettings, hclient, hout,
    run_tells (eq_ok_of_toOption hparse) (eq_ok_of_toOption hsettings) hclient⟩

end LicenseChooser
