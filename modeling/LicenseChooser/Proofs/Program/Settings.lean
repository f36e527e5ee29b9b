import LicenseChooser.Program
import LicenseChooser.Proofs.CommandLine.Parsing
import LicenseChooser.Proofs.Settings.Sources

/-!
The settings of a run: those of one source, and on top of them what the command line says.
-/

namespace LicenseChooser

open CommandLine

/-- Arguments that say these items before a command and behind it. -/
inductive CommandLine.IsLine : List String → List Item → List Item → Prop
  | mk {before rest : List String} {name : String} {l : Level} {outer inner : List Item} :
      topLevel.Says before outer → commandLevels.lookup name = some l → l.SaysAll rest inner →
      IsLine (before ++ name :: rest) outer inner

section Options

variable {name : String} {l : Level} {outer inner : List Item} {i : Invocation}

theorem under_eq {g h : Given} (hg : topLevel.takeAll? outer ⟨[], none⟩ = some g)
    (hh : l.takeAll? inner ⟨[], none⟩ = some h) (option : String) :
    g.under h option =
      if valuesOf option inner = [] then valuesOf option outer else valuesOf option inner := by
  rw [Given.under, Given.has_eq, values_takeAll? hg, values_takeAll? hh]
  cases valuesOf option inner <;> rfl

theorem excluded_of_accepted? (h : accepted? name l outer inner = some i) :
    i.excluded =
      if valuesOf "exclude" inner = [] then valuesOf "exclude" outer else valuesOf "exclude" inner := by
  obtain ⟨g, hg, h⟩ := Option.bind_eq_some_iff.1 h
  obtain ⟨g', hg', h⟩ := Option.bind_eq_some_iff.1 h
  obtain ⟨command, -, rfl⟩ := Option.map_eq_some_iff.1 h
  exact under_eq hg hg' "exclude"

/-- Values behind the command put those before it aside, and are not added to them. -/
theorem excluded_of_parse {args : List String} (hline : IsLine args outer inner)
    (hparse : parse args = .ok i) :
    i.excluded =
      if valuesOf "exclude" inner = [] then valuesOf "exclude" outer else valuesOf "exclude" inner := by
  obtain ⟨houter, hlevel, hinner⟩ := hline
  have hjudged := judged_of_arguments houter hlevel hinner
  rw [hparse] at hjudged
  exact excluded_of_accepted? hjudged.eq_some

end Options

/-- What a client is built from, given settings and what the command line says on top of them. -/
structure Configures (s : Settings) (i : Invocation) (c : ClientSettings) : Prop where
  root : Url.parse (i.rootUrl.getD s.rootUrl) = .ok c.root
  excluded : c.excluded = s.excluded ++ i.excluded
  maxConnections : c.maxConnections = s.maxConnections
  timeout : c.timeoutMillis = s.timeoutSeconds * 1000

section Run

variable {w : World} {i : Invocation} {source : Option String}

theorem clientSettings_eq_ok_iff {s : Settings} {c : ClientSettings} :
    (s.under i).clientSettings = .ok c ↔ Configures s i c := by
  rw [Settings.clientSettings, mapError_eq_ok_iff, Settings.client]
  constructor
  · intro h
    obtain ⟨root, hroot, rfl⟩ := exists_of_map_eq_ok h
    exact ⟨hroot, rfl, rfl, rfl⟩
  · rintro ⟨hroot, hexcluded, hconnections, htimeout⟩
    have hsame : (s.under i).rootUrl = i.rootUrl.getD s.rootUrl := rfl
    rw [hsame, hroot]
    cases c
    cases hexcluded
    cases hconnections
    cases htimeout
    rfl

theorem effectiveSettings_of_load {s : Settings}
    (h : Settings.load w.files w.place i.config = .ok s) :
    effectiveSettings w i = (s.under i).clientSettings := by
  rw [effectiveSettings, h]
  simp only [bind, Except.bind]

theorem effectiveSettings_eq_ok_iff (h : Selects w.files w.place i.config source)
    {c : ClientSettings} :
    effectiveSettings w i = .ok c ↔ ∃ s, Supplies w.files source s ∧ Configures s i c := by
  constructor
  · intro hsettings
    obtain ⟨s, hload, hclient⟩ := exists_of_bind_eq_ok hsettings
    exact ⟨s, (Settings.load_eq_ok_iff h).1 hload, clientSettings_eq_ok_iff.1 hclient⟩
  · rintro ⟨s, hload, hclient⟩
    rw [effectiveSettings_of_load ((Settings.load_eq_ok_iff h).2 hload)]
    exact clientSettings_eq_ok_iff.2 hclient

theorem invoke_of_create {s : ClientSettings} {c : Client}
    (hsettings : effectiveSettings w i = .ok s) (hclient : Client.create s = .ok c) :
    invoke w i = perform w c i [readyLine c] := by
  rw [invoke, hsettings]
  dsimp only
  rw [hclient]

end Run

end LicenseChooser
