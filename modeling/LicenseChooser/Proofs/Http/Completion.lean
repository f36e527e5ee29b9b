import LicenseChooser.Proofs.Http.Interleaving
import Mathlib.Data.List.Nodup

/-!
That dialogues finish. At every moment the positions that are listed as finished are those whose task
has a result, each once and in the order in which the results came; when all is over they are all
positions.
-/

namespace LicenseChooser.Http.Interleaving

variable {α : Type} {server : Server} {s : Interleaving α}

/-- The positions listed as finished are those of the tasks with a result, each once. -/
structure Accounted (s : Interleaving α) : Prop where
  nodup : s.finished.Nodup
  mem_iff : ∀ i, i ∈ s.finished ↔ ∃ a, s.tasks[i]? = some (.finished a)

theorem accounted_start (permits : Nat) (sent : List Request) (dialogues : List (Dialogue α)) :
    (start permits sent dialogues).Accounted := by
  refine ⟨List.nodup_nil, fun i => ?_⟩
  simp [start]

theorem Accounted.not_mem (h : s.Accounted) {i : Nat} {d : Dialogue α}
    (hi : s.tasks[i]? = some (.running d)) : i ∉ s.finished := by
  intro hmem
  obtain ⟨a, ha⟩ := (h.mem_iff i).1 hmem
  rw [hi] at ha
  cases ha

theorem Accounted.turn (h : s.Accounted) (server : Server) (j : Nat) :
    (s.turn server j).Accounted := by
  rcases turn_cases server s j with ⟨a, -, hj, hturn, -⟩ | ⟨r, next, -, hj, hturn, -⟩ | ⟨hturn, -⟩
  · have hlt := (List.getElem?_eq_some_iff.1 hj).1
    rw [hturn]
    refine ⟨?_, fun i => ?_⟩
    · rw [← List.concat_eq_append]
      exact h.nodup.concat (h.not_mem hj)
    · rw [List.mem_append, List.mem_singleton, h.mem_iff]
      by_cases hij : i = j
      · subst hij
        simp [hlt]
      · simp [hij, List.getElem?_set_ne (Ne.symm hij)]
  · have hlt := (List.getElem?_eq_some_iff.1 hj).1
    rw [hturn]
    refine ⟨h.nodup, fun i => ?_⟩
    rw [h.mem_iff]
    by_cases hij : i = j
    · subst hij
      rw [List.getElem?_set_self hlt, hj]
      simp
    · simp [List.getElem?_set_ne (Ne.symm hij)]
  · rwa [hturn]

theorem Accounted.turns (h : s.Accounted) (server : Server) (schedule : List Nat) :
    (schedule.foldl (Interleaving.turn server) s).Accounted := by
  induction schedule generalizing s with
  | nil => exact h
  | cons j schedule ih => exact ih (h.turn server j)

/-- What is finished stays finished, and in its order. -/
theorem finished_prefix_turn (server : Server) (s : Interleaving α) (j : Nat) :
    s.finished <+: (s.turn server j).finished := by
  rcases turn_cases server s j with ⟨a, -, -, hturn, -⟩ | ⟨r, next, -, -, hturn, -⟩ | ⟨hturn, -⟩ <;>
    simp [hturn]

theorem finished_prefix_turns (server : Server) (schedule : List Nat) (s : Interleaving α) :
    s.finished <+: (schedule.foldl (turn server) s).finished := by
  induction schedule generalizing s with
  | nil => exact List.prefix_refl _
  | cons j schedule ih => exact (finished_prefix_turn server s j).trans (ih _)

/-- The positions without a result, counted from `start` on. -/
def unfinished (start : Nat) : List (Task α) → List Nat
  | [] => []
  | .running _ :: rest => start :: unfinished (start + 1) rest
  | .finished _ :: rest => unfinished (start + 1) rest

theorem finished_conclude (server : Server) (start : Nat) (sent : List Request)
    (tasks : List (Task α)) :
    (conclude server start sent tasks).finished = unfinished start tasks := by
  induction tasks generalizing start sent with
  | nil => rfl
  | cons t rest ih =>
      cases t with
      | running d => exact congrArg (start :: ·) (ih (start + 1) _)
      | finished a => exact ih (start + 1) sent

theorem mem_unfinished_iff {start i : Nat} {tasks : List (Task α)} :
    i ∈ unfinished start tasks ↔ ∃ k d, i = start + k ∧ tasks[k]? = some (.running d) := by
  induction tasks generalizing start with
  | nil => simp [unfinished]
  | cons t rest ih =>
      have hrest : i ∈ unfinished (start + 1) rest ↔
          ∃ k d, i = start + (k + 1) ∧ (t :: rest)[k + 1]? = some (.running d) := by
        rw [ih]
        simp only [List.getElem?_cons_succ, Nat.add_comm 1, Nat.add_assoc]
      cases t with
      | running d =>
          rw [unfinished, List.mem_cons, hrest]
          constructor
          · rintro (rfl | ⟨k, d', h⟩)
            · exact ⟨0, d, rfl, rfl⟩
            · exact ⟨k + 1, d', h⟩
          · rintro ⟨k, d', h⟩
            cases k with
            | zero => exact .inl h.1
            | succ k => exact .inr ⟨k, d', h⟩
      | finished a =>
          rw [unfinished, hrest]
          constructor
          · rintro ⟨k, d', h⟩
            exact ⟨k + 1, d', h⟩
          · rintro ⟨k, d', h⟩
            cases k with
            | zero => cases h.2
            | succ k => exact ⟨k, d', h⟩

theorem pairwise_unfinished (start : Nat) (tasks : List (Task α)) :
    (unfinished start tasks).Pairwise (· < ·) := by
  induction tasks generalizing start with
  | nil => exact .nil
  | cons t rest ih =>
      cases t with
      | running d =>
          refine .cons (fun i hi => ?_) (ih (start + 1))
          obtain ⟨k, d', rfl, -⟩ := mem_unfinished_iff.1 hi
          omega
      | finished a => exact ih (start + 1)

theorem nodup_unfinished (start : Nat) (tasks : List (Task α)) :
    (unfinished start tasks).Nodup :=
  (pairwise_unfinished start tasks).imp Nat.ne_of_lt

theorem unfinished_eq_nil {start : Nat} {tasks : List (Task α)}
    (h : ∀ t ∈ tasks, ∃ a, t = .finished a) : unfinished start tasks = [] := by
  rw [List.eq_nil_iff_forall_not_mem]
  intro i hi
  obtain ⟨k, d, -, hk⟩ := mem_unfinished_iff.1 hi
  obtain ⟨a, ha⟩ := h _ (List.mem_of_getElem? hk)
  cases ha

/-- The positions in the order in which they finish when the schedule goes no further. -/
def closing (s : Interleaving α) : List Nat := s.finished ++ unfinished 0 s.tasks

theorem Accounted.closing_perm (h : s.Accounted) :
    s.closing.Perm (List.range s.tasks.length) := by
  have hnodup : s.closing.Nodup := by
    rw [closing, List.nodup_append']
    refine ⟨h.nodup, nodup_unfinished 0 s.tasks, fun i hi hi' => ?_⟩
    obtain ⟨k, d, rfl, hk⟩ := mem_unfinished_iff.1 hi'
    rw [Nat.zero_add] at hi
    exact h.not_mem hk hi
  rw [List.perm_ext_iff_of_nodup hnodup List.nodup_range]
  intro i
  rw [closing, List.mem_append, List.mem_range, h.mem_iff, mem_unfinished_iff]
  constructor
  · rintro (⟨a, ha⟩ | ⟨k, d, rfl, hk⟩)
    · exact (List.getElem?_eq_some_iff.1 ha).1
    · rw [Nat.zero_add]
      exact (List.getElem?_eq_some_iff.1 hk).1
  · intro hi
    have hi' := List.getElem?_eq_getElem hi
    cases ht : s.tasks[i] with
    | finished a => exact .inl ⟨a, ht ▸ hi'⟩
    | running d => exact .inr ⟨i, d, (Nat.zero_add i).symm, ht ▸ hi'⟩

theorem finished_run (server : Server) (permits : Nat) (schedule : List Nat) (sent : List Request)
    (dialogues : List (Dialogue α)) :
    (run server permits schedule sent dialogues).finished =
      (schedule.foldl (turn server) (start permits sent dialogues)).closing := by
  rw [run, finished_conclude, closing]

/-- Every dialogue finishes, and each once. -/
theorem finished_run_perm (server : Server) (permits : Nat) (schedule : List Nat)
    (sent : List Request) (dialogues : List (Dialogue α)) :
    (run server permits schedule sent dialogues).finished.Perm (List.range dialogues.length) := by
  have haccounted := (accounted_start permits sent dialogues).turns server schedule
  have hlength := length_turns server schedule (start permits sent dialogues)
  rw [start, List.length_map, ← start] at hlength
  rw [finished_run, ← hlength]
  exact haccounted.closing_perm

end LicenseChooser.Http.Interleaving
