import LicenseChooser.Proofs.Program.Results
import LicenseChooser.Proofs.Toml.Integers

/-!
Building the client of a run. The number of connections comes out of a file as an integer of 64 bits that
is not negative, and one that is too small is raised to one. One that is too large is not looked at, so
that for some files building breaks off.
-/

namespace LicenseChooser

open CommandLine Toml

/-- The settings come from a file that names this number of connections. -/
inductive Asks (w : World) (i : Invocation) (n : Int) : Prop
  | mk {path text : String} {members : List (Key × Value)} {span : Span} :
      Selects w.files w.place i.config (some path) → w.files.text path = .ok text →
      Toml.read text = .ok members →
      Settings.setting? members "max_connections" = some (.scalar (.integer n) span) → Asks w i n

section Settings

theorem Toml.fits_of_member? {name : String} {members : List (Key × Value)} {v : Value}
    (h : ∀ p ∈ members, p.2.Fits) (hv : member? name members = some v) : v.Fits := by
  obtain ⟨p, hp, rfl⟩ := Option.map_eq_some_iff.1 hv
  exact h p (List.mem_of_find?_eq_some hp)

theorem Settings.fits_of_settingIn? {key : String} {v item : Value} (h : v.Fits)
    (hitem : settingIn? v key = some item) : item.Fits := by
  cases h with
  | scalar _ span => cases hitem
  | array hitems =>
      obtain ⟨earlier, later, hzip, -⟩ := List.lookup_eq_some_iff.1 hitem
      have hmem : (key, item) ∈ keys.zip _ := hzip ▸ List.mem_append_right _ List.mem_cons_self
      exact hitems item (List.of_mem_zip hmem).2
  | table hmembers => exact fits_of_member? hmembers hitem

theorem Settings.fits_of_setting? {key : String} {members : List (Key × Value)} {item : Value}
    (h : (Value.table members none).Fits) (hitem : setting? members key = some item) :
    item.Fits := by
  obtain ⟨v, hv, hitem⟩ := Option.bind_eq_some_iff.1 hitem
  cases h with
  | table hmembers => exact fits_of_settingIn? (fits_of_member? hmembers hv) hitem

variable {w : World} {i : Invocation} {s : ClientSettings}

theorem Asks.lt {n : Int} (h : Asks w i n) : n < 0x8000000000000000 := by
  obtain ⟨-, -, hread, hsetting⟩ := h
  cases Settings.fits_of_setting? (fits_of_read hread) hsetting with
  | scalar hn span => exact hn.2

theorem Settings.takes_readNatural {expected : String} {value? : Option Value} {before k : Nat}
    (h : Takes (readNatural expected) value? before k) :
    (value? = none ∧ k = before) ∨ ∃ span, value? = some (.scalar (.integer k) span) := by
  cases value? with
  | none => exact .inl ⟨rfl, (Except.ok.inj h).symm⟩
  | some v =>
      right
      rw [Takes, Option.elim_some, readNatural.eq_def] at h
      split at h
      · rename_i n span
        split at h
        · rename_i hn
          refine ⟨span, ?_⟩
          rw [← Except.ok.inj h, Int.toNat_of_nonneg hn]
        · cases h
      · cases h

variable (hsettings : effectiveSettings w i = .ok s)
include hsettings

theorem maxConnections_of_asks {n : Int} (h : Asks w i n) : (s.maxConnections : Int) = n := by
  obtain ⟨hselects, htext, hread, hsetting⟩ := h
  obtain ⟨before, hsupplies, hconfigures⟩ := (effectiveSettings_eq_ok_iff hselects).1 hsettings
  rw [hconfigures.maxConnections]
  cases hsupplies with
  | file htext' hread' _ htaken =>
      cases htext.symm.trans htext'
      cases hread.symm.trans hread'
      have hconnections := htaken.maxConnections
      rw [hsetting] at hconnections
      obtain ⟨hnone, -⟩ | ⟨span, hspan⟩ := Settings.takes_readNatural hconnections
      · cases hnone
      · cases hspan
        rfl

theorem maxConnections_of_not_asks (h : ∀ n, ¬ Asks w i n) :
    s.maxConnections = defaultMaxConnections := by
  have hselects := Settings.selects_source? w.files w.place i.config
  obtain ⟨before, hsupplies, hconfigures⟩ := (effectiveSettings_eq_ok_iff hselects).1 hsettings
  rw [hconfigures.maxConnections]
  generalize Settings.source? w.files w.place i.config = source at hselects hsupplies
  cases hsupplies with
  | defaults => rfl
  | @file path text members _ htext hread _ htaken =>
      obtain ⟨-, hdefault⟩ | ⟨span, hsetting⟩ := Settings.takes_readNatural htaken.maxConnections
      · exact hdefault
      · exact absurd (.mk hselects htext hread hsetting) (h _)

end Settings

namespace Client

variable {s : ClientSettings}

theorem create_of_isOpaque (h : s.root.isOpaque = true) :
    create s = .error (.refused (.invalidUrl Operation.clientInit s.root.toString notBase)) := by
  rw [create, if_pos h]

theorem create_of_lt (h : s.root.isOpaque = false) (hlt : maxPermits < s.maxConnections) :
    create s = .error .tooManyPermits := by
  rw [create, if_neg (Bool.eq_false_iff.1 h),
    if_pos (Nat.lt_of_lt_of_le hlt (Nat.le_max_left _ _))]

theorem create_of_le (h : s.root.isOpaque = false) (hle : s.maxConnections ≤ maxPermits) :
    create s = .ok ⟨s.root, s.excluded, max s.maxConnections 1⟩ := by
  have hmax : ¬ maxPermits < max s.maxConnections 1 := Nat.not_lt.2 (Nat.max_le.2 ⟨hle, by decide⟩)
  rw [create, if_neg (Bool.eq_false_iff.1 h), if_neg hmax]

theorem create_eq_refused_iff {cause : Failure} :
    create s = .error (.refused cause) ↔ s.root.isOpaque = true ∧
      cause = .invalidUrl Operation.clientInit s.root.toString notBase := by
  cases hroot : s.root.isOpaque with
  | true => simp [create_of_isOpaque hroot, eq_comm]
  | false =>
      rcases Nat.lt_or_ge maxPermits s.maxConnections with hlt | hle
      · simp [create_of_lt hroot hlt]
      · simp [create_of_le hroot hle]

theorem create_eq_tooManyPermits_iff :
    create s = .error .tooManyPermits ↔
      s.root.isOpaque = false ∧ maxPermits < s.maxConnections := by
  cases hroot : s.root.isOpaque with
  | true => simp [create_of_isOpaque hroot]
  | false =>
      rcases Nat.lt_or_ge maxPermits s.maxConnections with hlt | hle
      · simp [create_of_lt hroot hlt, hlt]
      · simp [create_of_le hroot hle, hle]

theorem create_eq_ok_iff {c : Client} :
    create s = .ok c ↔ s.root.isOpaque = false ∧ s.maxConnections ≤ maxPermits ∧
      c = ⟨s.root, s.excluded, max s.maxConnections 1⟩ := by
  cases hroot : s.root.isOpaque with
  | true => simp [create_of_isOpaque hroot]
  | false =>
      rcases Nat.lt_or_ge maxPermits s.maxConnections with hlt | hle
      · simp [create_of_lt hroot hlt, Nat.not_le.2 hlt]
      · simp [create_of_le hroot hle, hle, eq_comm]

end Client

/-- What becomes of the client that is built from the settings of an invocation. Nothing but its root
makes it be refused, and nothing but the number of connections makes it break off. -/
structure Builds (w : World) (i : Invocation) (s : ClientSettings) : Prop where
  bounded : ∀ n, Asks w i n → 0 ≤ n ∧ n < 0x8000000000000000
  refused : ∀ cause, Client.create s = .error (.refused cause) ↔
    s.root.isOpaque = true ∧
      cause = .invalidUrl Operation.clientInit s.root.toString "not a base URL"
  brokenOff : Client.create s = .error .tooManyPermits ↔
    s.root.isOpaque = false ∧ ∃ n, Asks w i n ∧ 2305843009213693951 < n
  built : (∃ c, Client.create s = .ok c) ↔
    s.root.isOpaque = false ∧ ∀ n, Asks w i n → n ≤ 2305843009213693951
  kept : ∀ c, Client.create s = .ok c → c.root = s.root ∧ c.excluded = s.excluded
  permitted : ∀ c, Client.create s = .ok c → 1 ≤ c.permits ∧ c.permits ≤ 2305843009213693951
  asked : ∀ c n, Client.create s = .ok c → Asks w i n → (c.permits : Int) = max n 1
  unasked : ∀ c, Client.create s = .ok c → (∀ n, ¬ Asks w i n) → c.permits = 5
  exit : ∀ args, parse args = .ok i →
    ((run w args).exit = 101 ↔ Client.create s = .error .tooManyPermits)

section Run

variable {w : World} {i : Invocation} {s : ClientSettings}

theorem exit_invoke_iff (hsettings : effectiveSettings w i = .ok s) :
    (invoke w i).exit = 101 ↔ Client.create s = .error .tooManyPermits := by
  cases hclient : Client.create s with
  | ok c =>
      have hexit := exit_perform w c i [readyLine c]
      rw [invoke_of_create hsettings hclient]
      constructor
      · intro h
        omega
      · intro h
        cases h
  | error e =>
      rw [invoke, hsettings]
      dsimp only
      rw [hclient]
      cases e with
      | refused cause => simp [Outcome.failed]
      | tooManyPermits => simp

/-- If there are settings for an invocation, a client is built from them that may have a request in
flight, or it is refused for its root, or building it breaks off for a number in the file. -/
theorem builds_of_effectiveSettings (h : effectiveSettings w i = .ok s) : Builds w i s := by
  have hbounded : ∀ n, Asks w i n → 0 ≤ n ∧ n < 0x8000000000000000 := by
    intro n hn
    have hsame := maxConnections_of_asks h hn
    exact ⟨by omega, hn.lt⟩
  have hmany : (∃ n, Asks w i n ∧ 2305843009213693951 < n) ↔ maxPermits < s.maxConnections := by
    constructor
    · rintro ⟨n, hn, hlarge⟩
      have hsame := maxConnections_of_asks h hn
      exact Int.ofNat_lt.1 (hsame ▸ hlarge)
    · intro hlarge
      by_cases hasks : ∃ n, Asks w i n
      · obtain ⟨n, hn⟩ := hasks
        have hsame := maxConnections_of_asks h hn
        exact ⟨n, hn, hsame ▸ Int.ofNat_lt.2 hlarge⟩
      · rw [maxConnections_of_not_asks h (not_exists.1 hasks)] at hlarge
        exact absurd hlarge (by decide)
  have hfew : (∀ n, Asks w i n → n ≤ 2305843009213693951) ↔ s.maxConnections ≤ maxPermits := by
    rw [← Nat.not_lt, ← hmany]
    simp only [not_exists, not_and, Int.not_lt]
  refine ⟨hbounded, fun cause => Client.create_eq_refused_iff, ?_, ?_, ?_, ?_, ?_, ?_, ?_⟩
  · rw [hmany]
    exact Client.create_eq_tooManyPermits_iff
  · rw [hfew]
    simp only [Client.create_eq_ok_iff, exists_and_left, exists_eq, and_true]
  · intro c hc
    obtain ⟨-, -, rfl⟩ := Client.create_eq_ok_iff.1 hc
    exact ⟨rfl, rfl⟩
  · intro c hc
    obtain ⟨-, hle, rfl⟩ := Client.create_eq_ok_iff.1 hc
    exact ⟨Nat.le_max_right _ _, Nat.max_le.2 ⟨hle, by decide⟩⟩
  · intro c n hc hn
    obtain ⟨-, -, rfl⟩ := Client.create_eq_ok_iff.1 hc
    have hsame := maxConnections_of_asks h hn
    dsimp only
    omega
  · intro c hc hnone
    obtain ⟨-, -, rfl⟩ := Client.create_eq_ok_iff.1 hc
    dsimp only
    rw [maxConnections_of_not_asks h hnone]
    rfl
  · intro args hparse
    rw [run, hparse]
    exact exit_invoke_iff h

end Run

theorem builds_of_zero_connections :
    let text := "[api]\nmax_connections = 0\n"
    let files : Files := fun path =>
      if path = "/w/.license-catalog/config.toml" then .file (Text.encodeUtf8 text.toList)
      else .failed .missing
    let w : World := ⟨files, ⟨"/w", none⟩, Http.Server.unreachable, [], false⟩
    let i : Invocation := ⟨none, some "http://h/", ["b"], 0, true, .list "en"⟩
    let root : Url := ⟨"http", some ⟨"", none, some (.name "h"), none⟩, .segments [""], none, none⟩
    let s : ClientSettings := ⟨root, ["recombo", "mark", "b"], 0, 10000⟩
    effectiveSettings w i = .ok s ∧ Builds w i s ∧
    Client.create s = .ok ⟨root, ["recombo", "mark", "b"], 1⟩ := by
  intro text files w i root s
  have hsettings : (effectiveSettings w i).toOption = some s := by decide +kernel
  have h := eq_ok_of_toOption hsettings
  exact ⟨h, builds_of_effectiveSettings h, rfl⟩

/-- A file that is read without complaint, and from whose settings no client and no refusal comes. -/
theorem create_breaks_off :
    let text := "[api]\nmax_connections = 2305843009213693952\n"
    let files : Files := fun path =>
      if path = "/w/.license-catalog/config.toml" then .file (Text.encodeUtf8 text.toList)
      else .failed .missing
    let w : World := ⟨files, ⟨"/w", none⟩, Http.Server.unreachable, [], false⟩
    let args := ["--root-url=http://h/", "list"]
    let i : Invocation := ⟨none, some "http://h/", [], 0, false, .list "en"⟩
    let root : Url := ⟨"http", some ⟨"", none, some (.name "h"), none⟩, .segments [""], none, none⟩
    let s : ClientSettings := ⟨root, ["recombo", "mark"], 2305843009213693952, 10000⟩
    parse args = .ok i ∧ effectiveSettings w i = .ok s ∧
    Client.create s = .error .tooManyPermits ∧ (run w args).exit = 101 := by
  intro text files w args i root s
  have hparse : (parse args).toOption = some i := by decide +kernel
  have hsettings : (effectiveSettings w i).toOption = some s := by decide +kernel
  have hcreate : Client.create s = .error .tooManyPermits := by decide +kernel
  have h := eq_ok_of_toOption hsettings
  refine ⟨eq_ok_of_toOption hparse, h, hcreate, ?_⟩
  rw [run, eq_ok_of_toOption hparse]
  exact (exit_invoke_iff h).2 hcreate

end LicenseChooser
