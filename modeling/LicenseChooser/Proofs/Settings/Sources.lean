import LicenseChooser.Proofs.Settings.Reading
import LicenseChooser.Settings.Sources

/-!
Which source the settings come from. There is exactly one, and what it does not say is as it is by
default, whatever other sources would say.
-/

namespace LicenseChooser

/-- The one source of settings: the file that is named, even if it is not there, or else the file of the
project, the file of the user or the defaults. -/
inductive Selects (files : Files) (place : Place) : Option String → Option String → Prop
  | named (path : String) : Selects files place (some path) (some path)
  | project : files.holds place.localFile = true → Selects files place none (some place.localFile)
  | user {path : String} : files.holds place.localFile = false → place.homeFile? = some path →
      files.holds path = true → Selects files place none (some path)
  | defaults : files.holds place.localFile = false →
      (∀ path ∈ place.homeFile?, files.holds path = false) → Selects files place none none

/-- The settings that a source gives: those of a file, or the defaults. -/
inductive Supplies (files : Files) : Option String → Settings → Prop
  | defaults : Supplies files none .default
  | file {path text : String} {members : List (Toml.Key × Toml.Value)} {s : Settings} :
      files.text path = .ok text → Toml.read text = .ok members →
      (∀ v ∈ Toml.member? "api" members, Settings.holdsSettings v = true) →
      Settings.TakenFrom (Settings.setting? members) .default s → Supplies files (some path) s

namespace Settings

variable {files : Files} {place : Place} {named source : Option String}

theorem selects_source? (files : Files) (place : Place) (named : Option String) :
    Selects files place named (source? files place named) := by
  cases named with
  | some path => exact .named path
  | none =>
      rw [source?, Option.none_or, Place.searched, List.find?_cons]
      cases hlocal : files.holds place.localFile with
      | true => exact .project hlocal
      | false =>
          cases hhome : place.homeFile? with
          | none => exact .defaults hlocal (by simp [hhome])
          | some path =>
              cases hpath : files.holds path with
              | true => simpa [hpath] using Selects.user hlocal hhome hpath
              | false => simpa [hpath] using Selects.defaults hlocal (by simpa [hhome] using hpath)

theorem source?_eq_of_selects (h : Selects files place named source) :
    source? files place named = source := by
  cases h with
  | named path => rfl
  | project hlocal => simp [source?, Place.searched, hlocal]
  | user hlocal hhome hpath => simp [source?, Place.searched, hlocal, hhome, hpath]
  | defaults hlocal hhome =>
      cases hfile : place.homeFile? with
      | none => simp [source?, Place.searched, hlocal, hfile]
      | some path => simp [source?, Place.searched, hlocal, hfile, hhome path hfile]

theorem load_eq_ok_iff (h : Selects files place named source) {s : Settings} :
    load files place named = .ok s ↔ Supplies files source s := by
  rw [load, source?_eq_of_selects h]
  cases source with
  | none =>
      rw [Except.ok.injEq]
      constructor
      · rintro rfl
        exact .defaults
      · rintro ⟨⟩
        rfl
  | some path =>
      constructor
      · intro hread
        obtain ⟨text, htext, hparse⟩ := exists_of_bind_eq_ok hread
        obtain ⟨members, hmembers, hshape, htaken⟩ :=
          parse_eq_ok_iff.1 (mapError_eq_ok_iff.1 hparse)
        exact .file (mapError_eq_ok_iff.1 htext) hmembers hshape htaken
      · rintro (_ | ⟨htext, hmembers, hshape, htaken⟩)
        simp only [readFile, htext]
        exact mapError_eq_ok_iff.2 (parse_eq_ok_iff.2 ⟨_, hmembers, hshape, htaken⟩)

end Settings

end LicenseChooser
