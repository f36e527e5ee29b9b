import LicenseChooser.Proofs.Toml.Keys

/-!
The size of integers in TOML documents. Each is one that 64 bits hold with a sign: larger ones are
faults of the text, in whatever base they are written.
-/

namespace LicenseChooser.Toml

/-- Whether 64 bits hold it, if it is an integer. -/
def Scalar.Fits : Scalar → Prop
  | .integer n => -0x8000000000000000 ≤ n ∧ n < 0x8000000000000000
  | _ => True

/-- All integers in it fit. -/
inductive Value.Fits : Value → Prop
  | scalar {x : Scalar} (hx : x.Fits) (span : Span) : Fits (.scalar x span)
  | array {items : List Value} {span : Span} : (∀ v ∈ items, Fits v) → Fits (.array items span)
  | table {members : List (Key × Value)} {span : Option Span} : (∀ p ∈ members, Fits p.2) →
      Fits (.table members span)

theorem Value.inherited_fits : Inherited Fits := ⟨.array, fun _ => .table⟩

section Reading

variable {cs rest : List Char} {x : Scalar}

theorem fits_integerOf {base : Nat} {negative : Bool} {digits : List Char}
    (h : integerOf base negative digits cs = .ok x) : x.Fits := by
  rw [integerOf] at h
  split at h
  · cases h
  · rename_i hlarge
    split at h
    · cases h
    · rename_i hsmall
      cases h
      exact ⟨Int.not_lt.1 hsmall, Int.not_le.1 hlarge⟩

theorem fits_basedInteger {base : Nat} {label : String}
    (h : basedInteger base label cs = .ok (x, rest)) : x.Fits := by
  obtain ⟨digits, -, h⟩ := exists_of_bind_eq_ok h
  obtain ⟨y, hy, h⟩ := exists_of_bind_eq_ok h
  cases h
  exact fits_integerOf hy

theorem fits_realAfter {negative : Bool} {whole start : List Char}
    (h : realAfter negative whole cs start = .ok (x, rest)) : x.Fits := by
  rw [realAfter, mapError_eq_ok_iff] at h
  dsimp only at h
  split at h
  all_goals
    obtain ⟨_, -, h⟩ := exists_of_bind_eq_ok h
    obtain ⟨_, -, h⟩ := exists_of_bind_eq_ok h
    split at h
    · cases h
    · cases h
      trivial

theorem fits_decimal (h : decimal cs = .ok (x, rest)) : x.Fits := by
  obtain ⟨_, -, h⟩ := exists_of_bind_eq_ok h
  dsimp only at h
  split at h
  · exact fits_realAfter h
  · obtain ⟨y, hy, h⟩ := exists_of_bind_eq_ok h
    cases h
    exact fits_integerOf hy

theorem fits_realWord? {negative : Bool} (h : realWord? negative cs = some (x, rest)) : x.Fits := by
  unfold realWord? at h
  split at h
  · cases h
    trivial
  · cases h
    trivial
  · cases h

theorem fits_numeric (h : numeric cs = .ok (x, rest)) : x.Fits := by
  obtain ⟨moment?, -, h⟩ := exists_of_bind_eq_ok h
  cases moment? with
  | some after =>
      cases h
      trivial
  | none =>
      dsimp only at h
      split at h
      · exact fits_basedInteger h
      · exact fits_basedInteger h
      · exact fits_basedInteger h
      · split at h
        · rename_i read hread
          cases h
          exact fits_realWord? hread
        · exact fits_decimal h

theorem fits_word {name : List Char} {b : Bool} (h : word name (.boolean b) cs = .ok (x, rest)) :
    x.Fits := by
  rw [word] at h
  split at h
  · cases h
    trivial
  · cases h

theorem fits_scalar (h : scalar cs = .ok (x, rest)) : x.Fits := by
  unfold scalar at h
  split at h
  · cases h
  · split_ifs at h
    · obtain ⟨_, -, h⟩ := exists_of_map_eq_ok h
      cases h
      trivial
    · exact fits_word h
    · exact fits_word h
    · exact fits_numeric h
    · split at h
      · rename_i read hread
        cases h
        exact fits_realWord? hread
      · cases h

end Reading

/-- All integers among these tokens fit. -/
def Fitting (tokens : List Token) : Prop := ∀ x span, .scalar x span ∈ tokens → x.Fits

theorem fitting_singleton {t : Token} (h : ∀ x span, t = .scalar x span → x.Fits) : Fitting [t] :=
  fun x span hx => h x span (List.mem_singleton.1 hx).symm

@[simp]
theorem fitting_nil : Fitting [] := fun _ _ h => nomatch h

/-- The tokens that a step gives, or with which the text ends. -/
def emitted : Stepping → List Token
  | .ok s => s.tokens
  | .error tokens => tokens

@[simp]
theorem emitted_ok (s : Step) : emitted (.ok s) = s.tokens := rfl

@[simp]
theorem fitting_stop (f : Fault) : Fitting (emitted (stop f)) := fitting_singleton nofun

section Steps

variable {opened : List Opened} {cs : List Char}

theorem fitting_keyStep (next : Place) : Fitting (emitted (keyStep next opened cs)) := by
  unfold keyStep
  dsimp only
  split
  · exact fitting_singleton nofun
  · exact fitting_stop _

theorem fitting_afterValue {token : Token} (h : Fitting [token]) (start : Nat) (rest : List Char) :
    Fitting (emitted (afterValue token start opened rest)) := by
  unfold afterValue
  split
  · split
    · exact h
    · exact fitting_stop _
  · exact h
  · exact h

theorem fitting_valueStep : Fitting (emitted (valueStep opened cs)) := by
  unfold valueStep
  dsimp only
  split
  · split
    · exact fitting_stop _
    · exact fitting_singleton nofun
  · split
    · exact fitting_stop _
    · exact fitting_singleton nofun
  · split
    · rename_i value rest hvalue
      apply fitting_afterValue (fitting_singleton _)
      rintro x span ⟨⟩
      exact fits_scalar hvalue
    · exact fitting_stop _

theorem fitting_closeStep (rest : List Char) : Fitting (emitted (closeStep opened rest)) := by
  unfold closeStep
  split
  · exact fitting_stop _
  · dsimp only
    apply fitting_afterValue
    split <;> exact fitting_singleton nofun

theorem fitting_tableEnd : Fitting (emitted (tableEnd opened cs)) := by
  unfold tableEnd
  split
  · exact fitting_closeStep _
  · exact fitting_stop _
  · intro x span hx
    simp [emitted] at hx

theorem fitting_lineStep : Fitting (emitted (lineStep cs)) := by
  unfold lineStep
  split
  case h_2 => split <;> simp
  case h_9 => exact fitting_keyStep _
  all_goals simp

theorem fitting_headerStep (element : Bool) (start : Nat) :
    Fitting (emitted (headerStep element start cs)) := by
  unfold headerStep
  dsimp only
  split
  case h_3 => split <;> simp
  all_goals simp

theorem fitting_assignStep : Fitting (emitted (assignStep opened cs)) := by
  unfold assignStep
  dsimp only
  split
  case h_2 => split <;> simp
  all_goals simp

theorem fitting_nextStep : Fitting (emitted (nextStep opened cs)) := by
  unfold nextStep
  split
  · split
    · exact fitting_singleton nofun
    · exact fitting_stop _
  · exact fitting_nil
  · exact fitting_closeStep _
  · exact fitting_stop _
  · split
    · exact fitting_nil
    · exact fitting_tableEnd
  · exact fitting_tableEnd

theorem fitting_itemStep : Fitting (emitted (itemStep opened cs)) := by
  unfold itemStep
  split
  · exact fitting_stop _
  · exact fitting_closeStep _
  · split
    · exact fitting_valueStep
    · exact fitting_stop _

theorem fitting_step (opened : List Opened) (place : Place) (cs : List Char) :
    Fitting (emitted (step opened place cs)) := by
  cases place with
  | line => exact fitting_lineStep
  | headerKey element start => exact fitting_keyStep _
  | afterHeaderKey element start => exact fitting_headerStep element start
  | afterHeader element span =>
      rw [step]
      split
      · exact fitting_singleton nofun
      · exact fitting_stop _
  | firstKey =>
      rw [step]
      split
      · exact fitting_keyStep _
      · exact fitting_tableEnd
  | key => exact fitting_keyStep _
  | afterKey => exact fitting_assignStep
  | value => exact fitting_valueStep
  | firstItem => exact fitting_itemStep
  | after => exact fitting_nextStep

theorem fitting_scan (opened : List Opened) (place : Place) (cs : List Char) :
    Fitting (scan opened place cs) := by
  fun_induction scan opened place cs with
  | case1 opened place cs tokens h =>
      have hstep := fitting_step opened place cs
      rw [h] at hstep
      exact hstep
  | case2 opened place cs s h hless ih =>
      have hstep := fitting_step opened place cs
      rw [h, emitted_ok] at hstep
      intro x span hx
      exact (List.mem_append.1 hx).elim (hstep x span) (ih x span)
  | case3 opened place cs s h hless =>
      have hstep := fitting_step opened place cs
      rw [h] at hstep
      exact hstep

end Steps

theorem fitting_tokens (s : String) : Fitting (tokens s) := by
  unfold tokens
  split <;> exact fitting_scan _ _ _

/-- All integers of a document that is read have 64 bits. -/
theorem fits_of_read {s : String} {members : List (Key × Value)} (h : read s = .ok members) :
    (Value.table members none).Fits :=
  inherited_of_read Value.inherited_fits (fun x span hx => .scalar (fitting_tokens s x span hx) span) h

end LicenseChooser.Toml
