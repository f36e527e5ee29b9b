import LicenseChooser.Proofs.Pairs
import LicenseChooser.Proofs.Toml.Keys
import LicenseChooser.Settings.Reading

/-!
Which settings a text gives. Each is read from the value of its own key, or is its default if the text
does not have the key; no other key makes a difference.
-/

namespace LicenseChooser.Settings

open Toml

/-- What is read from a value, if there is one, or else what was there before. -/
def Takes {α : Type} (read : Value → Except Misfit α) (value? : Option Value) (before x : α) : Prop :=
  value?.elim (.ok before) read = .ok x

/-- Settings of which each is read from the value under its own key or stays what it was. -/
@[mk_iff]
structure TakenFrom (value? : String → Option Value) (before s : Settings) : Prop where
  rootUrl : Takes readText (value? "root_url") before.rootUrl s.rootUrl
  excluded : Takes readTexts (value? "excluded_licenses") before.excluded s.excluded
  maxConnections :
    Takes (readNatural "usize") (value? "max_connections") before.maxConnections s.maxConnections
  timeoutSeconds :
    Takes (readNatural "u64") (value? "timeout_secs") before.timeoutSeconds s.timeoutSeconds

/-- The value of a setting in what stands under `api`: that of its key in a table, or, in an array, that
in its place. A date has none. -/
def settingIn? (v : Value) (key : String) : Option Value :=
  match v with
  | .table entries _ => member? key entries
  | .array items _ => (keys.zip items).lookup key
  | .scalar _ _ => none

/-- Whether a value can stand under `api`. -/
def holdsSettings : Value → Bool
  | .table _ _ | .array _ _ | .scalar .moment _ => true
  | .scalar _ _ => false

/-- The value of a setting in a document. -/
def setting? (members : List (Key × Value)) (key : String) : Option Value :=
  (member? "api" members).bind (settingIn? · key)

/-- Takes settings over from pairs, one after the other. -/
def takeAll? (pairs : List (String × Value)) (s : Settings) : Option Settings :=
  pairs.foldlM (fun s p => (s.set p.1 p.2).toOption) s

theorem takes_cons_iff {α : Type} {read : Value → Except Misfit α} {key : String} {v : Value}
    {pairs : List (String × Value)} (hnew : key ∉ pairs.map (·.1)) (k : String) (before x : α) :
    Takes read (((key, v) :: pairs).lookup k) before x ↔
      ∃ y, Takes read (if k = key then some v else none) before y ∧
        Takes read (pairs.lookup k) y x := by
  rw [lookup_cons_eq]
  by_cases h : k = key
  · have hnone : pairs.lookup k = none := by
      rw [List.lookup_eq_none_iff]
      intro p hp
      rw [bne_iff_ne]
      rintro rfl
      exact hnew (h ▸ List.mem_map_of_mem hp)
    simp [Takes, h ▸ hnone, h]
  · simp [Takes, h]

theorem set_eq_ok_iff {before s : Settings} {key : String} {v : Value} :
    before.set key v = .ok s ↔ TakenFrom (fun k => if k = key then some v else none) before s := by
  cases before
  cases s
  unfold set
  split
  · cases hv : readText v <;> simp [takenFrom_iff, Takes, Except.map, hv]
  · cases hv : readTexts v <;> simp [takenFrom_iff, Takes, Except.map, hv]
  · cases hv : readNatural "usize" v <;> simp [takenFrom_iff, Takes, Except.map, hv]
  · cases hv : readNatural "u64" v <;> simp [takenFrom_iff, Takes, Except.map, hv]
  · rename_i hroot hexcluded hconnections htimeout
    simp [takenFrom_iff, Takes, Ne.symm hroot, Ne.symm hexcluded, Ne.symm hconnections, Ne.symm htimeout]

theorem takenFrom_cons_iff {key : String} {v : Value} {pairs : List (String × Value)}
    (hnew : key ∉ pairs.map (·.1)) {before s : Settings} :
    TakenFrom (((key, v) :: pairs).lookup ·) before s ↔
      ∃ s', before.set key v = .ok s' ∧ TakenFrom (pairs.lookup ·) s' s := by
  constructor
  · rintro ⟨hroot, hexcluded, hconnections, htimeout⟩
    obtain ⟨rootUrl, hroot, hroot'⟩ := (takes_cons_iff hnew _ _ _).1 hroot
    obtain ⟨excluded, hexcluded, hexcluded'⟩ := (takes_cons_iff hnew _ _ _).1 hexcluded
    obtain ⟨connections, hconnections, hconnections'⟩ := (takes_cons_iff hnew _ _ _).1 hconnections
    obtain ⟨timeout, htimeout, htimeout'⟩ := (takes_cons_iff hnew _ _ _).1 htimeout
    exact ⟨⟨rootUrl, excluded, connections, timeout⟩,
      set_eq_ok_iff.2 ⟨hroot, hexcluded, hconnections, htimeout⟩,
      hroot', hexcluded', hconnections', htimeout'⟩
  · rintro ⟨s', hset, h⟩
    have hfirst := set_eq_ok_iff.1 hset
    exact ⟨(takes_cons_iff hnew _ _ _).2 ⟨_, hfirst.rootUrl, h.rootUrl⟩,
      (takes_cons_iff hnew _ _ _).2 ⟨_, hfirst.excluded, h.excluded⟩,
      (takes_cons_iff hnew _ _ _).2 ⟨_, hfirst.maxConnections, h.maxConnections⟩,
      (takes_cons_iff hnew _ _ _).2 ⟨_, hfirst.timeoutSeconds, h.timeoutSeconds⟩⟩

theorem takeAll?_eq_some_iff {pairs : List (String × Value)} (h : (pairs.map (·.1)).Nodup)
    {before s : Settings} :
    takeAll? pairs before = some s ↔ TakenFrom (pairs.lookup ·) before s := by
  induction pairs generalizing before with
  | nil =>
      cases before
      cases s
      simp [takeAll?, takenFrom_iff, Takes]
  | cons p pairs ih =>
      obtain ⟨key, v⟩ := p
      rw [List.map_cons, List.nodup_cons] at h
      rw [takenFrom_cons_iff h.1, takeAll?, List.foldlM_cons]
      refine Option.bind_eq_some_iff.trans (exists_congr fun s' => ?_)
      exact and_congr toOption_eq_some_iff (ih h.2)

theorem takenFrom_none_iff {before s : Settings} :
    TakenFrom (fun _ => none) before s ↔ before = s :=
  (@takeAll?_eq_some_iff [] List.nodup_nil before s).symm.trans Option.some_inj

theorem lookup_named (entries : List (Key × Value)) (key : String) :
    (entries.map fun p => (p.1.name, p.2)).lookup key = member? key entries := by
  induction entries with
  | nil => rfl
  | cons p entries ih =>
      rw [List.map_cons, lookup_cons_eq, ih, member?, member?, List.find?_cons]
      by_cases h : key = p.1.name
      · rw [if_pos h, beq_iff_eq.2 h.symm]
        rfl
      · rw [if_neg h, beq_eq_false_iff_ne.2 (Ne.symm h)]

theorem ofValue_eq_ok_iff {v : Value} (hv : v.Distinct) {s : Settings} :
    ofValue v = .ok s ↔ holdsSettings v = true ∧ TakenFrom (settingIn? v) default s := by
  cases hv with
  | scalar value span =>
      have hnone : TakenFrom (settingIn? (.scalar value span)) default s ↔ default = s :=
        takenFrom_none_iff
      rw [hnone]
      cases value <;> simp [ofValue, holdsSettings]
  | @array items span _ =>
      have hkeys : keys.Nodup := by decide
      rw [ofValue, ← toOption_eq_some_iff, toOption_foldlM]
      exact (takeAll?_eq_some_iff (nodup_zip hkeys items)).trans (and_iff_right rfl).symm
  | @table entries span hnames _ =>
      have hpairs : ((entries.map fun p => (p.1.name, p.2)).map (·.1)).Nodup := by
        rwa [List.map_map]
      have hsettings := @takeAll?_eq_some_iff _ hpairs default s
      rw [takeAll?, List.foldlM_map] at hsettings
      simp only [lookup_named] at hsettings
      rw [ofValue, ← toOption_eq_some_iff, toOption_foldlM]
      simp only [setMember, toOption_mapError]
      exact hsettings.trans (and_iff_right rfl).symm

theorem ofMembers_eq_ok_iff {members : List (Key × Value)}
    (h : (Value.table members none).Distinct) {s : Settings} :
    ofMembers members = .ok s ↔
      (∀ v ∈ member? "api" members, holdsSettings v = true) ∧
        TakenFrom (setting? members) default s := by
  have hvalues : ∀ p ∈ members, p.2.Distinct := by
    cases h with
    | table _ hvalues => exact hvalues
  rw [ofMembers]
  split
  · rename_i hfind
    have hapi : member? "api" members = none := by rw [member?, hfind, Option.map_none]
    have hnone : setting? members = fun _ => none := by
      funext key
      rw [setting?, hapi, Option.bind_none]
    rw [hnone, takenFrom_none_iff, hapi, Except.ok.injEq]
    simp
  · rename_i key v hfind
    have hapi : member? "api" members = some v := by rw [member?, hfind, Option.map_some]
    have hsome : setting? members = settingIn? v := by
      funext name
      rw [setting?, hapi, Option.bind_some]
    rw [hsome, hapi, mapError_eq_ok_iff,
      ofValue_eq_ok_iff (hvalues (key, v) (List.mem_of_find?_eq_some hfind))]
    simp

/-- A text gives settings exactly if it is TOML, what is under `api` can hold settings, and every value
under a key of theirs has the right shape. -/
theorem parse_eq_ok_iff {text : String} {s : Settings} :
    parse text = .ok s ↔ ∃ members, Toml.read text = .ok members ∧
      (∀ v ∈ member? "api" members, holdsSettings v = true) ∧
        TakenFrom (setting? members) default s := by
  rw [parse]
  split
  · rename_i fault hread
    simp [hread]
  · rename_i members hread
    rw [mapError_eq_ok_iff,
      ofMembers_eq_ok_iff (distinct_of_read hread)]
    simp [hread]

end LicenseChooser.Settings
