import LicenseChooser.Proofs.Http.Completion
import Mathlib.Data.List.Sort

/-!
What the permits allow. Dialogues can finish in an order exactly if, whenever one does, fewer than all
permits are taken by dialogues before it: with one permit that is the order of the positions, and with a
permit for each every order. A dialogue that all permits are taken before has not sent anything.
-/

namespace LicenseChooser.Http.Interleaving

variable {α : Type} {server : Server} {s : Interleaving α}

/-- So many may be under way when the tasks finish in this order: of those that finish after one, fewer
stand before it. -/
def Admissible (permits : Nat) : List Nat → Prop
  | [] => True
  | i :: later => later.countP (· < i) < permits ∧ Admissible permits later

instance (permits : Nat) : (order : List Nat) → Decidable (Admissible permits order)
  | [] => isTrue trivial
  | _ :: later =>
      have := instDecidableAdmissible permits later
      inferInstanceAs (Decidable (_ ∧ Admissible permits later))

namespace Admissible

variable {permits : Nat} {order : List Nat}

theorem of_pairwise (h : order.Pairwise (· < ·)) (hpermits : 0 < permits) :
    Admissible permits order := by
  induction h with
  | nil => trivial
  | @cons i later hi _ ih =>
      refine ⟨?_, ih⟩
      have hnone : later.countP (· < i) = 0 := by
        rw [List.countP_eq_zero]
        intro j hj
        simpa using Nat.le_of_lt (hi j hj)
      omega

/-- With a permit for each dialogue they finish in any order. -/
theorem of_length_le (h : order.length ≤ permits) : Admissible permits order := by
  induction order with
  | nil => trivial
  | cons i later ih =>
      rw [List.length_cons] at h
      have hle := List.countP_le_length (p := fun j => decide (j < i)) (l := later)
      exact ⟨by omega, ih (by omega)⟩

/-- In which order the last ones finish does not matter to those that finish before them. -/
theorem append_perm {front last last' : List Nat} (h : Admissible permits (front ++ last))
    (hperm : last.Perm last') (hlast : Admissible permits last') :
    Admissible permits (front ++ last') := by
  induction front with
  | nil => exact hlast
  | cons i front ih =>
      refine ⟨?_, ih h.2⟩
      have hcount := h.1
      rwa [List.append_eq, List.countP_append, hperm.countP_eq, ← List.countP_append] at hcount

/-- With one permit they finish one after the other. -/
theorem eq_range_of_one {n : Nat} (h : Admissible 1 order) (hperm : order.Perm (List.range n)) :
    order = List.range n := by
  have hsorted : order.Pairwise (· ≤ ·) := by
    clear hperm
    induction order with
    | nil => exact .nil
    | cons i later ih =>
        refine .cons (fun j hj => ?_) (ih h.2)
        have hnone : later.countP (· < i) = 0 := Nat.lt_one_iff.1 h.1
        simpa using List.countP_eq_zero.1 hnone j hj
  exact hperm.eq_of_pairwise (fun _ _ _ _ => Nat.le_antisymm) hsorted List.pairwise_le_range

end Admissible

theorem countP_isRunning_take (start k : Nat) (tasks : List (Task α)) :
    (tasks.take k).countP Task.isRunning = (unfinished start tasks).countP (· < start + k) := by
  induction tasks generalizing start k with
  | nil => simp [unfinished]
  | cons t rest ih =>
      cases k with
      | zero =>
          rw [List.take_zero, List.countP_nil, eq_comm, List.countP_eq_zero]
          intro i hi
          obtain ⟨k, d, rfl, -⟩ := mem_unfinished_iff.1 hi
          simp
      | succ k =>
          have hrest := ih (start + 1) k
          rw [Nat.add_right_comm, Nat.add_assoc] at hrest
          cases t with
          | running d =>
              rw [List.take_succ_cons, unfinished, List.countP_cons_of_pos rfl,
                List.countP_cons_of_pos (by simp), hrest]
          | finished a =>
              rw [List.take_succ_cons, unfinished, List.countP_cons_of_neg (by simp [Task.isRunning]),
                hrest]

theorem admits_iff (s : Interleaving α) (i : Nat) :
    s.admits i = true ↔ (unfinished 0 s.tasks).countP (· < i) < s.permits := by
  rw [admits, decide_eq_true_iff, countP_isRunning_take 0, Nat.zero_add]

/-- The task at a position was running and is finished, and the others still run or still do not. -/
structure Finishes (tasks tasks' : List (Task α)) (j : Nat) : Prop where
  before : ∃ d, tasks[j]? = some (.running d)
  after : ∃ a, tasks'[j]? = some (.finished a)
  others : ∀ k, k ≠ j → tasks'[k]? = tasks[k]?

theorem Finishes.unfinished_perm {tasks tasks' : List (Task α)} {j : Nat}
    (h : Finishes tasks tasks' j) : (unfinished 0 tasks).Perm (j :: unfinished 0 tasks') := by
  obtain ⟨⟨d, hbefore⟩, ⟨a, hafter⟩, hothers⟩ := h
  have hmem : ∀ (ts : List (Task α)) i,
      i ∈ unfinished 0 ts ↔ ∃ d, ts[i]? = some (.running d) := by
    intro ts i
    rw [mem_unfinished_iff]
    constructor
    · rintro ⟨k, d, rfl, hk⟩
      exact ⟨d, by rwa [Nat.zero_add]⟩
    · rintro ⟨d, hd⟩
      exact ⟨i, d, (Nat.zero_add i).symm, hd⟩
  have hnot : j ∉ unfinished 0 tasks' := by
    rw [hmem, hafter]
    simp
  rw [List.perm_ext_iff_of_nodup (nodup_unfinished 0 tasks)
    (List.nodup_cons.2 ⟨hnot, nodup_unfinished 0 tasks'⟩)]
  intro i
  rw [List.mem_cons, hmem, hmem]
  by_cases hij : i = j
  · subst hij
    simp [hbefore]
  · rw [hothers i hij, or_iff_right hij]

theorem finishes_set {tasks : List (Task α)} {j : Nat} {d : Dialogue α}
    (h : tasks[j]? = some (.running d)) (a : α) : Finishes tasks (tasks.set j (.finished a)) j :=
  ⟨⟨d, h⟩, ⟨a, List.getElem?_set_self (List.getElem?_eq_some_iff.1 h).1⟩,
    fun _ hk => List.getElem?_set_ne (Ne.symm hk)⟩

theorem unfinished_set_running {tasks : List (Task α)} {j : Nat} {d : Dialogue α}
    (h : tasks[j]? = some (.running d)) (d' : Dialogue α) (start : Nat) :
    unfinished start (tasks.set j (.running d')) = unfinished start tasks := by
  induction tasks generalizing start j with
  | nil => rfl
  | cons t rest ih =>
      cases j with
      | zero =>
          cases h
          rfl
      | succ j => cases t <;> simp only [List.set_cons_succ, unfinished, ih h]

theorem admissible_closing_turn (hpermits : 0 < s.permits) (h : Admissible s.permits s.closing)
    (server : Server) (j : Nat) : Admissible s.permits (s.turn server j).closing := by
  rcases turn_cases server s j with
    ⟨a, hadmits, hj, hturn, -⟩ | ⟨r, next, -, hj, hturn, -⟩ | ⟨hturn, -⟩
  · have hperm := (finishes_set hj a).unfinished_perm
    have hsorted := pairwise_unfinished 0 (s.tasks.set j (.finished a))
    rw [hturn, closing, List.append_assoc, List.singleton_append]
    refine h.append_perm hperm ⟨?_, .of_pairwise hsorted hpermits⟩
    rw [admits_iff, hperm.countP_eq, List.countP_cons_of_neg (by simp)] at hadmits
    exact hadmits
  · rw [hturn, closing, unfinished_set_running hj]
    exact h
  · rwa [hturn]

theorem permits_turns (server : Server) (schedule : List Nat) (s : Interleaving α) :
    (schedule.foldl (turn server) s).permits = s.permits := by
  induction schedule generalizing s with
  | nil => rfl
  | cons j schedule ih => exact (ih _).trans (permits_turn server s j)

theorem admissible_closing_turns (hpermits : 0 < s.permits) (h : Admissible s.permits s.closing)
    (server : Server) (schedule : List Nat) :
    Admissible s.permits (schedule.foldl (turn server) s).closing := by
  induction schedule generalizing s with
  | nil => exact h
  | cons j schedule ih =>
      have hstep := admissible_closing_turn hpermits h server j
      rw [← permits_turn server s j] at hpermits hstep ⊢
      exact ih hpermits hstep

/-- A task that has a permit finishes when it is given one turn after the other. -/
theorem exists_turns (server : Server) (d : Dialogue α) {s : Interleaving α} {i : Nat}
    (h : s.tasks[i]? = some (.running d)) (hadmits : s.admits i = true) :
    ∃ turns : List Nat, (turns.foldl (turn server) s).finished = s.finished ++ [i] ∧
      Finishes s.tasks (turns.foldl (turn server) s).tasks i := by
  induction d generalizing s with
  | done a =>
      have hturn : s.turn server i =
          { s with tasks := s.tasks.set i (.finished a), finished := s.finished ++ [i] } := by
        rw [turn, if_pos hadmits, h]
      refine ⟨[i], ?_, ?_⟩
      · rw [List.foldl_cons, hturn]
        rfl
      · rw [List.foldl_cons, hturn]
        exact finishes_set h a
  | ask r next ih =>
      have hturn : s.turn server i =
          { s with tasks := s.tasks.set i (.running (next (server s.sent r))),
                   sent := s.sent ++ [r] } := by
        rw [turn, if_pos hadmits, h]
      have hnext : (s.turn server i).tasks[i]? = some (.running (next (server s.sent r))) := by
        rw [hturn]
        exact List.getElem?_set_self (List.getElem?_eq_some_iff.1 h).1
      have hadmits' : (s.turn server i).admits i = true := by
        rw [admits_iff, hturn] at *
        rwa [unfinished_set_running h]
      obtain ⟨turns, hfinished, -, hafter, hothers⟩ := ih (server s.sent r) hnext hadmits'
      refine ⟨i :: turns, ?_, ⟨_, h⟩, hafter, fun k hk => ?_⟩
      · rw [List.foldl_cons, hfinished, hturn]
      · rw [List.foldl_cons, hothers k hk, getElem?_turn server s (Ne.symm hk)]

theorem exists_turns_of_admissible (server : Server) {order : List Nat} {s : Interleaving α}
    (hperm : order.Perm (unfinished 0 s.tasks)) (hadmissible : Admissible s.permits order) :
    ∃ schedule : List Nat, (schedule.foldl (turn server) s).closing = s.finished ++ order := by
  -- each of the order in its turn; what it leaves to do is the rest of the order
  induction order generalizing s with
  | nil =>
      refine ⟨[], ?_⟩
      rw [List.foldl_nil, closing, List.nil_perm.1 hperm]
  | cons i order ih =>
      obtain ⟨k, d, rfl, hd⟩ := mem_unfinished_iff.1 (hperm.subset List.mem_cons_self)
      rw [Nat.zero_add] at hperm hadmissible ⊢
      have hadmits : s.admits k = true := by
        rw [admits_iff, ← hperm.countP_eq, List.countP_cons_of_neg (by simp)]
        exact hadmissible.1
      obtain ⟨turns, hfinished, hfinishes⟩ := exists_turns server d hd hadmits
      have hrest : order.Perm (unfinished 0 (turns.foldl (turn server) s).tasks) :=
        (hperm.trans hfinishes.unfinished_perm).cons_inv
      have hpermits := permits_turns server turns s
      obtain ⟨schedule, hschedule⟩ := ih hrest (hpermits ▸ hadmissible.2)
      refine ⟨turns ++ schedule, ?_⟩
      rw [List.foldl_append, hschedule, hfinished, List.append_assoc, List.singleton_append]

theorem unfinished_start (permits : Nat) (sent : List Request) (dialogues : List (Dialogue α)) :
    unfinished 0 (start permits sent dialogues).tasks = List.range dialogues.length := by
  have hfrom : ∀ (first : Nat) (ds : List (Dialogue α)),
      unfinished first (ds.map .running) = List.range' first ds.length := by
    intro first ds
    induction ds generalizing first with
    | nil => rfl
    | cons d ds ih => rw [List.map_cons, unfinished, ih, List.length_cons, List.range'_succ]
  rw [start, hfrom, List.range_eq_range']

/-- The orders in which dialogues can finish are those that the permits allow, and no others. -/
theorem exists_schedule_iff (server : Server) {permits : Nat} (hpermits : 0 < permits)
    (sent : List Request) (dialogues : List (Dialogue α)) (order : List Nat) :
    (∃ schedule, (run server permits schedule sent dialogues).finished = order) ↔
      order.Perm (List.range dialogues.length) ∧ Admissible permits order := by
  have hstart := unfinished_start permits sent dialogues
  have hclosing : (start permits sent dialogues).closing = List.range dialogues.length := by
    rw [closing, hstart]
    rfl
  constructor
  · rintro ⟨schedule, rfl⟩
    refine ⟨finished_run_perm server permits schedule sent dialogues, ?_⟩
    rw [finished_run]
    refine admissible_closing_turns (s := start permits sent dialogues) hpermits ?_ server schedule
    rw [hclosing]
    exact .of_pairwise List.pairwise_lt_range hpermits
  · rintro ⟨hperm, hadmissible⟩
    rw [← hstart] at hperm
    obtain ⟨schedule, hschedule⟩ := exists_turns_of_admissible server hperm hadmissible
    exact ⟨schedule, by rw [finished_run, hschedule]; rfl⟩

/-- With two permits the first may finish last, but the third only when one of the two before it has. -/
example : Admissible 2 [1, 2, 0] ∧ ¬ Admissible 2 [2, 0, 1] := by decide

theorem length_unfinished (start : Nat) (tasks : List (Task α)) :
    (unfinished start tasks).length = tasks.countP Task.isRunning := by
  induction tasks generalizing start with
  | nil => rfl
  | cons t rest ih =>
      cases t with
      | running d => rw [unfinished, List.length_cons, ih, List.countP_cons_of_pos rfl]
      | finished a => rw [unfinished, ih, List.countP_cons_of_neg (by simp [Task.isRunning])]

/-- A position that has a permit is not further on than those that finished and the permits reach. -/
theorem Accounted.lt_of_admits (h : s.Accounted) {j : Nat} (hj : j < s.tasks.length)
    (hadmits : s.admits j = true) : j < s.finished.length + s.permits := by
  have htotal := h.closing_perm.length_eq
  rw [closing, List.length_append, length_unfinished, List.length_range] at htotal
  have hall := List.length_eq_countP_add_countP Task.isRunning (l := s.tasks)
  have hbefore := List.length_eq_countP_add_countP Task.isRunning (l := s.tasks.take j)
  rw [List.length_take_of_le (Nat.le_of_lt hj)] at hbefore
  have hdone := (List.take_sublist j s.tasks).countP_le (p := fun t => decide ¬t.isRunning = true)
  rw [admits, decide_eq_true_iff] at hadmits
  omega

/-- What has been sent for the dialogues after the requests of `sent`: nothing for those that wait for
a permit, and the first request of each that has had a turn. -/
structure Served (sent : List Request) (dialogues : List (Dialogue α)) (s : Interleaving α) :
    Prop where
  waiting : ∀ i, s.finished.length + s.permits ≤ i →
    s.tasks[i]? = dialogues[i]?.map .running
  begun : ∃ later, s.sent = sent ++ later ∧ ∀ (i : Nat) (d : Dialogue α), dialogues[i]? = some d →
    s.tasks[i]? = some (.running d) ∨ ∀ r, d.first? = some r → r ∈ later

variable {sent : List Request} {dialogues : List (Dialogue α)}

theorem served_start (permits : Nat) (sent : List Request) (dialogues : List (Dialogue α)) :
    Served sent dialogues (start permits sent dialogues) := by
  have htasks : ∀ i : Nat, (start permits sent dialogues).tasks[i]? = dialogues[i]?.map .running :=
    fun i => List.getElem?_map ..
  refine ⟨fun i _ => htasks i, [], (List.append_nil sent).symm, fun i d hd => .inl ?_⟩
  rw [htasks, hd]
  rfl

theorem Served.turn (h : Served sent dialogues s) (haccounted : s.Accounted) (server : Server)
    (j : Nat) : Served sent dialogues (s.turn server j) := by
  obtain ⟨hwaiting, later, hsent, hbegun⟩ := h
  rcases turn_cases server s j with
    ⟨a, hadmits, hj, hturn, -⟩ | ⟨r, next, hadmits, hj, hturn, -⟩ | ⟨hturn, -⟩
  · have hlt := (List.getElem?_eq_some_iff.1 hj).1
    have hreach := haccounted.lt_of_admits hlt hadmits
    rw [hturn]
    refine ⟨fun i hi => ?_, later, hsent, fun i d hd => ?_⟩
    · simp only [List.length_append, List.length_singleton] at hi
      rw [List.getElem?_set_ne (by omega)]
      exact hwaiting i (by omega)
    · by_cases hij : j = i
      · -- it ends at once, or it has had a turn before
        subst hij
        refine (hbegun j d hd).elim (fun hd' => .inr ?_) .inr
        rw [hj, Option.some.injEq, Task.running.injEq] at hd'
        simp [← hd', Dialogue.first?]
      · rw [List.getElem?_set_ne hij]
        exact hbegun i d hd
  · have hlt := (List.getElem?_eq_some_iff.1 hj).1
    have hreach := haccounted.lt_of_admits hlt hadmits
    rw [hturn]
    refine ⟨fun i hi => ?_, later ++ [r], ?_, fun i d hd => ?_⟩
    · rw [List.getElem?_set_ne (by simp only at hi; omega)]
      exact hwaiting i hi
    · rw [hsent, List.append_assoc]
    · by_cases hij : j = i
      · subst hij
        refine .inr fun first hfirst => List.mem_append.2 ?_
        refine (hbegun j d hd).elim (fun hd' => .inr ?_) fun hlater => .inl (hlater first hfirst)
        rw [hj, Option.some.injEq, Task.running.injEq] at hd'
        simpa [← hd', Dialogue.first?, eq_comm] using hfirst
      · rw [List.getElem?_set_ne hij]
        refine (hbegun i d hd).imp_right fun hlater first hfirst => ?_
        exact List.mem_append_left _ (hlater first hfirst)
  · rw [hturn]
    exact ⟨hwaiting, later, hsent, hbegun⟩

theorem Served.turns (h : Served sent dialogues s) (haccounted : s.Accounted) (server : Server)
    (schedule : List Nat) :
    Served sent dialogues (schedule.foldl (Interleaving.turn server) s) := by
  induction schedule generalizing s with
  | nil => exact h
  | cons j schedule ih => exact ih (h.turn haccounted server j) (haccounted.turn server j)

/-- What has been sent at one time has been sent at every later one. -/
theorem sent_prefix_turn (server : Server) (s : Interleaving α) (j : Nat) :
    s.sent <+: (s.turn server j).sent := by
  rcases turn_cases server s j with ⟨a, -, -, hturn, -⟩ | ⟨r, next, -, -, hturn, -⟩ | ⟨hturn, -⟩ <;>
    simp [hturn]

theorem sent_prefix_turns (server : Server) (schedule : List Nat) (s : Interleaving α) :
    s.sent <+: (schedule.foldl (turn server) s).sent := by
  induction schedule generalizing s with
  | nil => exact List.prefix_refl _
  | cons j schedule ih => exact (sent_prefix_turn server s j).trans (ih _)

theorem sent_prefix_conclude (server : Server) (start : Nat) (sent : List Request)
    (tasks : List (Task α)) : sent <+: (conclude server start sent tasks).sent := by
  induction tasks generalizing start sent with
  | nil => exact List.prefix_refl _
  | cons t rest ih =>
      cases t with
      | running d =>
          refine .trans ?_ (ih (start + 1) (d.run server sent).2)
          rw [d.sent_run]
          exact List.prefix_append sent _
      | finished a => exact ih (start + 1) sent

end LicenseChooser.Http.Interleaving
