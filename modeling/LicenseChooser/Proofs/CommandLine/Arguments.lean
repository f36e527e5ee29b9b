import LicenseChooser.CommandLine.Invocation
import LicenseChooser.Proofs.Except
import LicenseChooser.Proofs.Text.Scanning
import Mathlib.Data.List.Forall2

/-!
What arguments say. However options are written, attached to their values or in front of them, in short
or in long form, before operands or behind them, what is given in the end is what they say one after
the other.
-/

namespace LicenseChooser.CommandLine

open Text

/-- One thing that arguments say. -/
inductive Item where
  | option (spec : OptionSpec) (values : List String)
  | operand (text : String)

/-- An argument that is no option, because it does not begin with a dash or is one. -/
def isPlain (arg : String) : Bool :=
  match arg.toList with
  | '-' :: _ :: _ => false
  | _ => true

namespace Level

/-- Arguments that say these items, each of them complete. -/
inductive Says (l : Level) : List String → List Item → Prop
  | nil : Says l [] []
  | attached {name value o rest items} :
      l.long? name = some (.option o) → '=' ∉ name.toList → o.takesValue = true →
      Says l rest items → Says l (("--" ++ name ++ "=" ++ value) :: rest) (.option o [value] :: items)
  | apart {name value o rest items} :
      l.long? name = some (.option o) → name ≠ "" → '=' ∉ name.toList → o.takesValue = true →
      isPlain value = true → Says l rest items →
      Says l (("--" ++ name) :: value :: rest) (.option o [value] :: items)
  | switch {name o rest items} :
      l.long? name = some (.option o) → name ≠ "" → '=' ∉ name.toList → o.takesValue = false →
      Says l rest items → Says l (("--" ++ name) :: rest) (.option o [] :: items)
  | letters {cs os rest items} :
      cs ≠ [] → cs.head? ≠ some '-' →
      List.Forall₂ (fun c o => l.short? c = some (.option o)) cs os →
      Says l rest items →
      Says l (String.ofList ('-' :: cs) :: rest) (os.map (.option · []) ++ items)
  | operand {arg rest items} :
      isPlain arg = true → arg ∉ l.commands → Says l rest items →
      Says l (arg :: rest) (.operand arg :: items)

/-- Arguments without a command; behind two dashes everything is an operand. -/
inductive SaysAll (l : Level) : List String → List Item → Prop
  | plain {args items} : Says l args items → SaysAll l args items
  | escaped {args items} (operands : List String) : Says l args items →
      SaysAll l (args ++ "--" :: operands) (items ++ operands.map .operand)

/-- What was given together with one more item, if that can be. -/
def takeItem? (l : Level) (g : Given) : Item → Option Given
  | .option o values => (g.take o values).toOption
  | .operand arg =>
      if l.operand.isSome && g.operand.isNone then some { g with operand := some arg } else none

/-- What was given together with these items. -/
def takeAll? (l : Level) (items : List Item) (g : Given) : Option Given := items.foldlM l.takeItem? g

end Level

/-- What is given once the last option is checked too. -/
def Reading.checked? (r : Reading) : Option Given :=
  match r.pending with
  | none => some r.given
  | some (o, values) => (r.given.take o values).toOption

section Taking

theorem forM_eq_ok_iff {α ε : Type} {f : α → Except ε Unit} {xs : List α} :
    xs.forM f = .ok () ↔ ∀ x ∈ xs, f x = .ok () := by
  induction xs with
  | nil => simp [List.forM, pure, Except.pure]
  | cons x xs ih =>
      rw [List.forall_mem_cons, ← ih]
      cases hx : f x with
      | error e => simp [List.forM, hx, bind, Except.bind]
      | ok u => simp [List.forM, hx, bind, Except.bind]

/-- The values that an option is taken over with. -/
def taken (o : OptionSpec) (values : List String) : List String :=
  if o.takesValue then values else [""]

theorem Given.take_eq_ok_iff {g g' : Given} {o : OptionSpec} {values : List String} :
    g.take o values = .ok g' ↔
      (o.takesValue = true → values ≠ []) ∧ (o.isUnique = true → g.has o.name = false) ∧
      (∀ v ∈ values, o.checkValue v = .ok ()) ∧
      g' = { g with options := g.options ++ (taken o values).map (o.name, ·) } := by
  rw [take, ← forM_eq_ok_iff]
  by_cases hvalue : (o.takesValue && values.isEmpty) = true
  · have hbad : ¬ (o.takesValue = true → values ≠ []) := by simpa using hvalue
    rw [if_pos hvalue]
    simp only [hbad, false_and, iff_false]
    intro h
    cases h
  · have hgood : o.takesValue = true → values ≠ [] := by simpa using hvalue
    rw [if_neg hvalue]
    by_cases hunique : (o.isUnique && g.has o.name) = true
    · have hbad : ¬ (o.isUnique = true → g.has o.name = false) := by simpa using hunique
      rw [if_pos hunique]
      simp only [hbad, false_and, and_false, iff_false]
      intro h
      cases h
    · have hfree : o.isUnique = true → g.has o.name = false := by simpa using hunique
      rw [if_neg hunique]
      cases values.forM o.checkValue with
      | error e =>
          simp only [reduceCtorEq, false_and, and_false, iff_false]
          intro h
          cases h
      | ok u =>
          constructor
          · intro h
            cases h
            exact ⟨hgood, hfree, rfl, rfl⟩
          · rintro ⟨-, -, -, rfl⟩
            rfl

theorem Given.operand_take {g g' : Given} {o : OptionSpec} {values : List String}
    (h : g.take o values = .ok g') : g'.operand = g.operand := by
  obtain ⟨-, -, -, rfl⟩ := take_eq_ok_iff.1 h
  rfl

end Taking

/-- A step that comes to what is given then, or to a complaint. -/
inductive Amounts : Except Stop Reading → Option Given → Prop
  | ok {r} : r.awaiting = false → Amounts (.ok r) r.checked?
  | refused {e} : Amounts (.error (.usage e)) none

/-- A reading up to what follows that comes to what is given then, or to a complaint. -/
inductive Ends (next : Option (String × List String)) :
    Except Stop (Reading × Option (String × List String)) → Option Given → Prop
  | ok {r} : Ends next (.ok (r, next)) r.checked?
  | refused {e} : Ends next (.error (.usage e)) none

section Steps

variable {l : Level} {next : Option (String × List String)}

theorem Reading.operand_checked {r : Reading} {g : Given} (h : r.checked? = some g) :
    g.operand = r.given.operand := by
  rw [checked?] at h
  split at h
  · cases h
    rfl
  · rename_i o values hp
    cases ht : r.given.take o values with
    | error e =>
        rw [ht] at h
        cases h
    | ok g' =>
        rw [ht] at h
        cases h
        exact Given.operand_take ht

/-- The last option is checked, or it is complained about. -/
theorem Reading.settle_cases (r : Reading) :
    (∃ g, r.checked? = some g ∧ r.settle = .ok ⟨g, none, false⟩) ∨
      r.checked? = none ∧ ∃ e, r.settle = .error (.usage e) := by
  obtain ⟨given, pending, awaiting⟩ := r
  cases pending with
  | none => exact .inl ⟨given, rfl, rfl⟩
  | some p =>
      rw [settle, checked?]
      cases ht : given.take p.1 p.2 with
      | error e => exact .inr ⟨congrArg Except.toOption ht, e, by simp only [ht]; rfl⟩
      | ok g => exact .inl ⟨g, congrArg Except.toOption ht, by simp only [ht]; rfl⟩

theorem amounts_given (g : Given) : Amounts (.ok ⟨g, none, false⟩) (some g) :=
  @Amounts.ok ⟨g, none, false⟩ rfl

theorem amounts_give (o : OptionSpec) (values : List String) (r : Reading) :
    Amounts (r.give o values) (r.checked?.bind fun g => (g.take o values).toOption) := by
  rw [Reading.give]
  rcases r.settle_cases with ⟨g, hg, hs⟩ | ⟨hg, e, hs⟩
  · rw [hs, hg, Option.bind_some]
    cases ht : g.take o values with
    | error e =>
        simp only [bind, Except.bind, ht]
        exact .refused
    | ok g' =>
        simp only [bind, Except.bind, ht]
        exact amounts_given g'
  · rw [hs, hg]
    exact .refused

theorem amounts_operand {r : Reading} (escaped : Bool) (arg : String) :
    Amounts (l.stepOperand r escaped arg) (r.checked?.bind fun g => l.takeItem? g (.operand arg)) := by
  rw [Level.stepOperand]
  rcases r.settle_cases with ⟨g, hg, hs⟩ | ⟨hg, e, hs⟩
  · rw [hs, hg, Option.bind_some, Level.takeItem?, Reading.operand_checked hg]
    split
    · exact amounts_given _
    · split
      · exact .refused
      · exact .refused
  · rw [hs, hg]
    split
    · exact .refused
    · split
      · exact .refused
      · exact .refused

theorem amounts_bind {x : Except Stop Reading} {y : Option Given} (h : Amounts x y)
    {k : Reading → Except Stop Reading} {f : Given → Option Given}
    (hk : ∀ r, r.awaiting = false → Amounts (k r) (r.checked?.bind f)) :
    Amounts (x.bind k) (y.bind f) := by
  cases h with
  | ok hr => exact hk _ hr
  | refused => exact .refused

theorem ends_bind {x : Except Stop Reading} {y : Option Given} (h : Amounts x y)
    {k : Reading → Except Stop (Reading × Option (String × List String))}
    {f : Given → Option Given}
    (hk : ∀ r, r.awaiting = false → Ends next (k r) (r.checked?.bind f)) :
    Ends next (x.bind k) (y.bind f) := by
  cases h with
  | ok hr => exact hk _ hr
  | refused => exact .refused

theorem bind_takeAll?_nil (g : Option Given) : g.bind (l.takeAll? []) = g := by
  cases g <;> rfl

theorem bind_takeAll?_cons (g : Option Given) (item : Item) (items : List Item) :
    g.bind (l.takeAll? (item :: items)) =
      (g.bind fun g => l.takeItem? g item).bind (l.takeAll? items) := by
  cases g <;> rfl

theorem bind_takeAll?_append (g : Option Given) (items more : List Item) :
    g.bind (l.takeAll? (items ++ more)) =
      (g.bind (l.takeAll? items)).bind (l.takeAll? more) := by
  cases g with
  | none => rfl
  | some g => exact List.foldlM_append

theorem amounts_letters {cs : List Char} {os : List OptionSpec}
    (h : List.Forall₂ (fun c o => l.short? c = some (.option o)) cs os) {r : Reading}
    (hr : r.awaiting = false) :
    Amounts (l.stepShort r cs)
      (r.checked?.bind (l.takeAll? (os.map (.option · [])))) := by
  induction h generalizing r with
  | nil =>
      rw [List.map_nil, bind_takeAll?_nil, Level.stepShort]
      exact .ok hr
  | @cons c o cs os hc _ ih =>
      rw [List.map_cons, bind_takeAll?_cons, Level.stepShort, hc]
      exact amounts_bind (amounts_give o [] r) fun r hr => ih hr

theorem ends_escaped (operands : List String) (r : Reading) :
    Ends none (l.read true r operands)
      (r.checked?.bind (l.takeAll? (operands.map .operand))) := by
  induction operands generalizing r with
  | nil =>
      rw [List.map_nil, bind_takeAll?_nil]
      exact .ok
  | cons arg operands ih =>
      rw [Level.read, if_pos rfl, List.map_cons, bind_takeAll?_cons]
      exact ends_bind (amounts_operand true arg) fun r _ => ih r

/-- An argument that is neither a command nor the two dashes is a step of its own. -/
theorem read_step {r : Reading} {arg : String} (hcommand : r.awaiting = true ∨ arg ∉ l.commands)
    (hdashes : arg ≠ "--") (rest : List String) :
    l.read false r (arg :: rest) = (l.step r arg).bind fun r => l.read false r rest := by
  have hcond : (!r.awaiting && l.commands.contains arg) = false := by
    rcases hcommand with h | h <;> simp [h]
  rw [Level.read]
  simp only [hcond, hdashes, if_false, Bool.false_eq_true]
  rfl

theorem read_dashes {r : Reading} (hr : r.awaiting = true ∨ "--" ∉ l.commands)
    (rest : List String) : l.read false r ("--" :: rest) = l.read true r rest := by
  have hcond : (!r.awaiting && l.commands.contains "--") = false := by
    rcases hr with h | h <;> simp [h]
  rw [Level.read]
  simp only [hcond, if_true, if_false, Bool.false_eq_true]

theorem read_command {r : Reading} (hr : r.awaiting = false) {name : String}
    (hname : name ∈ l.commands) (rest : List String) :
    l.read false r (name :: rest) = .ok (r, some (name, rest)) := by
  simp [Level.read, hr, hname]

theorem toList_long (name : String) : ("--" ++ name).toList = '-' :: '-' :: name.toList := by
  rw [String.toList_append]
  rfl

theorem step_attached {name : String} {o : OptionSpec} (ho : l.long? name = some (.option o))
    (hname : '=' ∉ name.toList) (hvalue : o.takesValue = true) (r : Reading) (value : String) :
    l.step r ("--" ++ name ++ "=" ++ value) = r.give o [value] := by
  have hlist : ("--" ++ name ++ "=" ++ value).toList =
      '-' :: '-' :: (name.toList ++ '=' :: value.toList) := by
    rw [String.toList_append, String.toList_append, toList_long]
    simp
  have hcut : cutWhere (· == '=') (name.toList ++ '=' :: value.toList) =
      (name.toList, some value.toList) :=
    cutWhere_append (fun _ hd => beq_false_of_ne (ne_of_mem_of_not_mem hd hname)) rfl _
  rw [Level.step, hlist]
  simp only [hcut, Option.map_some, String.ofList_toList, Level.stepLong, ho, hvalue, if_true]

theorem cutWhere_name {name : String} (hname : '=' ∉ name.toList) :
    cutWhere (· == '=') name.toList = (name.toList, none) :=
  cutWhere_of_none fun _ hd => beq_false_of_ne (ne_of_mem_of_not_mem hd hname)

theorem step_switch {name : String} {o : OptionSpec} (ho : l.long? name = some (.option o))
    (hname : '=' ∉ name.toList) (hvalue : o.takesValue = false) (r : Reading) :
    l.step r ("--" ++ name) = r.give o [] := by
  rw [Level.step, toList_long]
  simp only [cutWhere_name hname, Option.map_none, String.ofList_toList, Level.stepLong, ho, hvalue,
    Bool.false_eq_true, if_false]

/-- An option that waits for its value. -/
theorem step_apart {name : String} {o : OptionSpec} (ho : l.long? name = some (.option o))
    (hname : '=' ∉ name.toList) (hvalue : o.takesValue = true) (r : Reading) :
    l.step r ("--" ++ name) =
      r.settle.map fun r => { r with pending := some (o, []), awaiting := true } := by
  rw [Level.step, toList_long]
  simp only [cutWhere_name hname, Option.map_none, String.ofList_toList, Level.stepLong, ho, hvalue,
    if_true]

theorem step_letters {cs : List Char} (hne : cs ≠ []) (hdash : cs.head? ≠ some '-') (r : Reading) :
    l.step r (String.ofList ('-' :: cs)) = l.stepShort r cs := by
  cases cs with
  | nil => exact absurd rfl hne
  | cons c cs =>
      rw [Level.step, String.toList_ofList]
      split
      · rename_i heq
        cases heq
        exact absurd rfl hdash
      · rename_i heq
        cases heq
        rfl
      · rename_i hshort
        exact absurd rfl (hshort c cs)

theorem step_plain {arg : String} (harg : isPlain arg = true) (r : Reading) :
    l.step r arg =
      match r.awaiting, r.pending with
      | true, some (o, values) =>
          .ok { r with pending := some (o, values ++ [arg]), awaiting := false }
      | _, _ => l.stepOperand r false arg := by
  rw [isPlain] at harg
  rw [Level.step]
  split
  · rename_i heq
    rw [heq] at harg
    cases harg
  · rename_i heq
    rw [heq] at harg
    cases harg
  · rfl

theorem long_ne_dashes {name : String} (h : name ≠ "") : "--" ++ name ≠ "--" := by
  intro heq
  apply h
  have hlist := congrArg String.toList heq
  rw [toList_long] at hlist
  exact String.toList_inj.1 (List.cons.inj (List.cons.inj hlist).2).2

section Whole

variable (hl : ∀ name ∈ l.commands, isPlain name = true)
include hl

theorem not_mem_commands {arg : String} (h : isPlain arg = false) : arg ∉ l.commands := by
  intro hmem
  rw [hl arg hmem] at h
  cases h

theorem long_not_mem_commands (name : String) : "--" ++ name ∉ l.commands := by
  apply not_mem_commands hl
  simp only [isPlain, toList_long]

/-- What arguments come to is what they say, whatever comes behind them. -/
theorem ends_of_arguments {args : List String} {items : List Item} (h : l.Says args items)
    {rest : List String} {f : Given → Option Given}
    (hrest : ∀ r : Reading, r.awaiting = false →
      Ends next (l.read false r rest) (r.checked?.bind f))
    {r : Reading} (hr : r.awaiting = false) :
    Ends next (l.read false r (args ++ rest))
      ((r.checked?.bind (l.takeAll? items)).bind f) := by
  induction h generalizing r with
  | nil =>
      rw [bind_takeAll?_nil]
      exact hrest r hr
  | @attached name value o args items ho hname hvalue _ ih =>
      have hwhole : "--" ++ name ++ "=" ++ value = "--" ++ (name ++ "=" ++ value) := by
        rw [String.append_assoc, String.append_assoc, String.append_assoc]
      have hbody : name ++ "=" ++ value ≠ "" := by
        intro h
        have := congrArg String.toList h
        simp at this
      have hstep := step_attached ho hname hvalue r value
      rw [hwhole] at hstep ⊢
      rw [List.cons_append, bind_takeAll?_cons,
        read_step (.inr (long_not_mem_commands hl _)) (long_ne_dashes hbody), hstep,
        Option.bind_assoc]
      exact ends_bind (amounts_give o [value] r) fun r hr => Option.bind_assoc .. ▸ ih hr
  | @apart name value o args items ho hne hname hvalue hplain _ ih =>
      have hdashes : value ≠ "--" := by
        rintro rfl
        cases hplain
      rw [List.cons_append, bind_takeAll?_cons,
        read_step (.inr (long_not_mem_commands hl name)) (long_ne_dashes hne),
        step_apart ho hname hvalue]
      rcases r.settle_cases with ⟨g, hg, hs⟩ | ⟨hg, e, hs⟩
      · -- the value is checked with the next argument, or at the end
        have hwait : l.step ⟨g, some (o, []), true⟩ value = .ok ⟨g, some (o, [value]), false⟩ :=
          step_plain hplain _
        have hvalue : l.read false ⟨g, some (o, []), true⟩ (value :: (args ++ rest)) =
            l.read false ⟨g, some (o, [value]), false⟩ (args ++ rest) := by
          rw [read_step (.inl rfl) hdashes, hwait]
          rfl
        rw [hs, hg]
        change Ends next (l.read false ⟨g, some (o, []), true⟩ (value :: (args ++ rest))) _
        rw [hvalue]
        exact ih rfl
      · rw [hs, hg]
        exact .refused
  | @switch name o args items ho hne hname hvalue _ ih =>
      rw [List.cons_append, bind_takeAll?_cons,
        read_step (.inr (long_not_mem_commands hl name)) (long_ne_dashes hne),
        step_switch ho hname hvalue, Option.bind_assoc]
      exact ends_bind (amounts_give o [] r) fun r hr => Option.bind_assoc .. ▸ ih hr
  | @letters cs os args items hne hdash hcs _ ih =>
      have hlist : (String.ofList ('-' :: cs)).toList = '-' :: cs := String.toList_ofList
      have hcommand : String.ofList ('-' :: cs) ∉ l.commands := by
        apply not_mem_commands hl
        obtain ⟨c, cs, rfl⟩ := List.exists_cons_of_ne_nil hne
        simp only [isPlain, hlist]
      have hdashes : String.ofList ('-' :: cs) ≠ "--" := by
        intro h
        have hcs := congrArg String.toList h
        rw [hlist] at hcs
        exact hdash (congrArg List.head? (List.cons.inj hcs).2)
      rw [List.cons_append, bind_takeAll?_append, read_step (.inr hcommand) hdashes,
        step_letters hne hdash, Option.bind_assoc]
      exact ends_bind (amounts_letters hcs hr) fun r hr => Option.bind_assoc .. ▸ ih hr
  | @operand arg args items harg hcommand _ ih =>
      have hdashes : arg ≠ "--" := by
        rintro rfl
        cases harg
      have hstep : l.step r arg = l.stepOperand r false arg := by
        rw [step_plain harg, hr]
      rw [List.cons_append, bind_takeAll?_cons, read_step (.inr hcommand) hdashes, hstep,
        Option.bind_assoc]
      exact ends_bind (amounts_operand false arg) fun r hr => Option.bind_assoc .. ▸ ih hr

theorem ends_of_saysAll {args : List String} {items : List Item} (h : l.SaysAll args items) :
    Ends none (l.read false .start args) (l.takeAll? items ⟨[], none⟩) := by
  cases h with
  | plain h =>
      have hrest : ∀ r : Reading, r.awaiting = false →
          Ends none (l.read false r []) (r.checked?.bind some) := by
        intro r _
        rw [Option.bind_fun_some]
        exact .ok
      have hend := ends_of_arguments hl h hrest (rfl : Reading.start.awaiting = false)
      rwa [Option.bind_fun_some, List.append_nil] at hend
  | @escaped args items operands h =>
      have hdashes : "--" ∉ l.commands := not_mem_commands hl rfl
      have hrest : ∀ r : Reading, r.awaiting = false →
          Ends none (l.read false r ("--" :: operands))
            (r.checked?.bind (l.takeAll? (operands.map .operand))) := by
        intro r _
        rw [read_dashes (.inr hdashes)]
        exact ends_escaped operands r
      have hend := ends_of_arguments hl h hrest (rfl : Reading.start.awaiting = false)
      rwa [← bind_takeAll?_append] at hend

theorem ends_of_command {before : List String} {items : List Item} (h : l.Says before items)
    {name : String} (hname : name ∈ l.commands) (rest : List String) :
    Ends (some (name, rest)) (l.read false .start (before ++ name :: rest))
      (l.takeAll? items ⟨[], none⟩) := by
  have hrest : ∀ r : Reading, r.awaiting = false →
      Ends (some (name, rest)) (l.read false r (name :: rest)) (r.checked?.bind some) := by
    intro r hr
    rw [read_command hr hname, Option.bind_fun_some]
    exact .ok
  have hend := ends_of_arguments hl h hrest (rfl : Reading.start.awaiting = false)
  rwa [Option.bind_fun_some] at hend

end Whole

end Steps

end LicenseChooser.CommandLine
