import LicenseChooser.Proofs.CommandLine.Coverage

/-!
Whole command lines. What comes of one is decided by what stands before the command and by what
stands behind it, each said in whatever way.
-/

namespace LicenseChooser.CommandLine

/-- The values that are said for options, under their names. -/
def Item.said : Item → List (String × String)
  | .option o values => (taken o values).map (o.name, ·)
  | .operand _ => []

/-- The values that are said for an option, in order. -/
def valuesOf (name : String) (items : List Item) : List String :=
  ((items.flatMap Item.said).filter (·.1 == name)).map (·.2)

theorem valuesOf_cons (name : String) (item : Item) (items : List Item) :
    valuesOf name (item :: items) = valuesOf name [item] ++ valuesOf name items := by
  simp [valuesOf]

theorem Given.has_eq (g : Given) (name : String) : g.has name = !(g.values name).isEmpty := by
  rw [has, values, List.isEmpty_map]
  induction g.options with
  | nil => rfl
  | cons p options ih =>
      rw [List.any_cons, List.filter_cons, ih]
      cases p.1 == name <;> rfl

theorem options_takeItem? {l : Level} {item : Item} {g h : Given} (hg : l.takeItem? g item = some h) :
    h.options = g.options ++ item.said := by
  cases item with
  | option o values =>
      obtain ⟨-, -, -, rfl⟩ := Given.take_eq_ok_iff.1 (eq_ok_of_toOption hg)
      rfl
  | operand arg =>
      rw [Level.takeItem?] at hg
      split at hg
      · cases hg
        exact (List.append_nil _).symm
      · cases hg

theorem options_takeAll? {l : Level} {items : List Item} {g h : Given}
    (hg : l.takeAll? items g = some h) : h.options = g.options ++ items.flatMap Item.said := by
  induction items generalizing g with
  | nil =>
      cases hg
      exact (List.append_nil _).symm
  | cons item items ih =>
      obtain ⟨g', hitem, hrest⟩ := Option.bind_eq_some_iff.1 hg
      rw [ih hrest, options_takeItem? hitem, List.append_assoc]
      rfl

/-- What is given for an option is what is said for it. -/
theorem values_takeAll? {l : Level} {items : List Item} {h : Given}
    (hg : l.takeAll? items ⟨[], none⟩ = some h) (name : String) :
    h.values name = valuesOf name items := by
  rw [Given.values, options_takeAll? hg]
  rfl

/-- What is asked for by a command, with what was given before it and with it. -/
def invocation (outer inner : Given) (command : Command) : Invocation :=
  { config := (outer.under inner "config").getLast?
    rootUrl := (outer.under inner "root-url").getLast?
    excluded := outer.under inner "exclude"
    verbosity := (outer.under inner "verbose").length
    quiet := !(outer.under inner "quiet").isEmpty
    command }

/-- The command of a name with these items, unless it lacks its operand. -/
def Level.command? (l : Level) (name : String) (g : Given) : Option Command :=
  if l.operand.isSome && g.operand.isNone then none
  else commandOf? name (g.operand.getD "") g

/-- What is asked for by items before a command and behind it, if they are accepted. -/
def accepted? (name : String) (l : Level) (outer inner : List Item) : Option Invocation :=
  (topLevel.takeAll? outer ⟨[], none⟩).bind fun g =>
    (l.takeAll? inner ⟨[], none⟩).bind fun h =>
      (l.command? name h).map (invocation g h)

/-- A command line that asks for something, or that is complained about. -/
inductive Judged : Except Stop Invocation → Option Invocation → Prop
  | ok {i} : Judged (.ok i) (some i)
  | refused {e} : Judged (.error (.usage e)) none

theorem Judged.eq_some {i : Invocation} {asked : Option Invocation} (h : Judged (.ok i) asked) :
    asked = some i := by
  cases h
  rfl

theorem Judged.eq_ok {x : Except Stop Invocation} {i : Invocation} (h : Judged x (some i)) :
    x = .ok i := by
  cases h
  rfl

theorem Judged.eq_error {x : Except Stop Invocation} (h : Judged x none) :
    ∃ e, x = .error (.usage e) := by
  cases h
  exact ⟨_, rfl⟩

section Parse

variable {before rest : List String} {name : String} {l : Level} {outer inner : List Item}

theorem isPlain_commands : ∀ name ∈ topLevel.commands, isPlain name = true := by decide

theorem commands_of_lookup (hlevel : commandLevels.lookup name = some l) :
    name ∈ topLevel.commands ∧ l.commands = [] := by
  have hlevels : ∀ p ∈ commandLevels, p.1 ∈ topLevel.commands ∧ p.2.commands = [] := by
    simp [commandLevels, topLevel, commandNames]
  obtain ⟨earlier, later, hwhole, -⟩ := List.lookup_eq_some_iff.1 hlevel
  exact hlevels (name, l) (hwhole ▸ by simp)

/-- The arguments of a command come to the command, or they are complained about. -/
theorem readCommand_cases (hlevel : commandLevels.lookup name = some l)
    (hinner : l.SaysAll rest inner) :
    (∃ h command, l.takeAll? inner ⟨[], none⟩ = some h ∧ l.command? name h = some command ∧
      readCommand name l rest = .ok (command, h)) ∨
    (l.takeAll? inner ⟨[], none⟩).bind (l.command? name) = none ∧
      ∃ e, readCommand name l rest = .error (.usage e) := by
  have hend := ends_of_saysAll (by rw [(commands_of_lookup hlevel).2]; simp) hinner
  rw [readCommand]
  generalize l.read false .start rest = x at hend ⊢
  generalize l.takeAll? inner ⟨[], none⟩ = y at hend ⊢
  cases hend with
  | refused => exact .inr ⟨rfl, _, rfl⟩
  | @ok reading =>
      rcases reading.settle_cases with ⟨h, hh, hs⟩ | ⟨hh, e, hs⟩
      · rw [hh]
        simp only [bind, Except.bind, Except.mapError, hs, Option.bind_some]
        cases hc : l.command? name h with
        | some command =>
            refine .inl ⟨h, command, rfl, hc, ?_⟩
            rw [Level.command?] at hc
            split
            · rename_i hlacks hnone
              simp [hlacks, hnone] at hc
            · split at hc
              · cases hc
              · rw [hc]
                rfl
        | none =>
            refine .inr ⟨rfl, ?_⟩
            rw [Level.command?] at hc
            split
            · exact ⟨_, rfl⟩
            · rename_i hgiven
              split at hc
              · rename_i hlacks
                obtain ⟨hoperand, hnone⟩ := Bool.and_eq_true_iff.1 hlacks
                obtain ⟨operand, hoperand⟩ := Option.isSome_iff_exists.1 hoperand
                exact (hgiven operand hoperand (Option.isNone_iff_eq_none.1 hnone)).elim
              · rw [hc]
                exact ⟨_, rfl⟩
      · rw [hh]
        simp only [bind, Except.bind, Except.mapError, hs]
        exact .inr ⟨rfl, e, rfl⟩

theorem judged_of_arguments (houter : topLevel.Says before outer)
    (hlevel : commandLevels.lookup name = some l) (hinner : l.SaysAll rest inner) :
    Judged (parse (before ++ name :: rest)) (accepted? name l outer inner) := by
  have hend := ends_of_command isPlain_commands houter (commands_of_lookup hlevel).1 rest
  have hcommand := readCommand_cases hlevel hinner
  rw [parse, accepted?]
  generalize topLevel.read false .start (before ++ name :: rest) = x at hend ⊢
  generalize topLevel.takeAll? outer ⟨[], none⟩ = y at hend ⊢
  cases hend with
  | refused => exact .refused
  | @ok reading =>
      simp only [bind, Except.bind, hlevel]
      rcases hcommand with ⟨h, command, hh, hc, hread⟩ | ⟨hnone, e, hread⟩
      · simp only [hread, hh, Option.bind_some, hc, Option.map_some]
        rcases reading.settle_cases with ⟨g, hg, hs⟩ | ⟨hg, e, hs⟩
        · rw [hs, hg]
          exact .ok
        · rw [hs, hg]
          exact .refused
      · have hnothing : (reading.checked?.bind fun g =>
            (l.takeAll? inner ⟨[], none⟩).bind fun h =>
              (l.command? name h).map (invocation g h)) = none := by
          cases reading.checked? with
          | none => rfl
          | some g =>
              rw [Option.bind_some]
              cases hh : l.takeAll? inner ⟨[], none⟩ with
              | none => rfl
              | some h =>
                  rw [hh, Option.bind_some] at hnone
                  rw [Option.bind_some, hnone]
                  rfl
        rw [hnothing, hread]
        exact .refused

end Parse

end LicenseChooser.CommandLine
