import LicenseChooser.Proofs.Http.Interleaving

/-!
What a dialogue is sure to come to. Where a server's replies leave no doubt, whatever it was asked
before, neither the schedule nor the dialogues beside it have a say in the result.
-/

namespace LicenseChooser.Http

variable {α β : Type} {server : Server}

/-- Whatever the server is asked in between, the result has this property. -/
def Dialogue.Ensures (server : Server) (p : α → Prop) : Dialogue α → Prop
  | done a => p a
  | ask r next => ∀ sent, (next (server sent r)).Ensures server p

theorem Dialogue.Ensures.map {p : α → Prop} {q : β → Prop} {f : α → β} {d : Dialogue α}
    (h : d.Ensures server p) (hf : ∀ a, p a → q (f a)) : (d.map f).Ensures server q := by
  induction d with
  | done a => exact hf a h
  | ask r next ih => exact fun sent => ih (server sent r) (h sent)

theorem Dialogue.Ensures.mono {p q : α → Prop} {d : Dialogue α} (h : d.Ensures server p)
    (hpq : ∀ a, p a → q a) : d.Ensures server q := by
  induction d with
  | done a => exact hpq a h
  | ask r next ih => exact fun sent => ih (server sent r) (h sent)

theorem Dialogue.Ensures.run {p : α → Prop} {d : Dialogue α} (h : d.Ensures server p)
    (sent : List Request) : p (d.run server sent).1 := by
  induction d generalizing sent with
  | done a => exact h
  | ask r next ih => exact ih (server sent r) (h sent) (sent ++ [r])

def Task.Ensures (server : Server) (p : α → Prop) : Task α → Prop
  | .running d => d.Ensures server p
  | .finished a => p a

namespace Interleaving

/-- The task at each position is sure of a result with the property that belongs to it. -/
def Ensures (server : Server) (p : Nat → α → Prop) (tasks : List (Task α)) : Prop :=
  ∀ (i : Nat) (t : Task α), tasks[i]? = some t → t.Ensures server (p i)

variable {p : Nat → α → Prop}

theorem Ensures.set {tasks : List (Task α)} (h : Ensures server p tasks) {j : Nat} {t : Task α}
    (ht : t.Ensures server (p j)) : Ensures server p (tasks.set j t) := by
  intro i u hu
  rw [List.getElem?_set] at hu
  split at hu
  · rename_i hij
    split at hu
    · rw [← hij, ← Option.some.inj hu]
      exact ht
    · cases hu
  · exact h i u hu

theorem ensures_turn {s : Interleaving α} (h : Ensures server p s.tasks) (j : Nat) :
    Ensures server p (s.turn server j).tasks := by
  -- a task that asks is sure of its result after the reply to any history, so after this one too
  rcases turn_cases server s j with
    ⟨a, -, hdone, hturn, -⟩ | ⟨r, next, -, hask, hturn, -⟩ | ⟨hturn, -⟩
  · have ha : (Dialogue.done a).Ensures server (p j) := h j _ hdone
    rw [hturn]
    exact h.set ha
  · have hnext : (Dialogue.ask r next).Ensures server (p j) := h j _ hask
    rw [hturn]
    exact h.set (hnext s.sent)
  · rwa [hturn]

theorem ensures_turns {s : Interleaving α} (h : Ensures server p s.tasks) (schedule : List Nat) :
    Ensures server p (schedule.foldl (turn server) s).tasks := by
  induction schedule generalizing s with
  | nil => exact h
  | cons j schedule ih => exact ih (ensures_turn h j)

theorem result_of_ensures {tasks : List (Task α)} (h : Ensures server p tasks) (start : Nat)
    (sent : List Request) {i : Nat} {a : α}
    (ha : (conclude server start sent tasks).results[i]? = some a) : p i a := by
  -- without the first task every position is one lower, and the properties move with them
  induction tasks generalizing start sent i p with
  | nil => cases ha
  | cons t rest ih =>
      have hrest : Ensures server (fun k => p (k + 1)) rest := fun k u hu => h (k + 1) u hu
      cases t with
      | finished b =>
          cases i with
          | zero =>
              cases ha
              exact h 0 _ rfl
          | succ i => exact ih hrest _ _ ha
      | running d =>
          cases i with
          | zero =>
              cases ha
              exact (h 0 _ rfl : d.Ensures server (p 0)).run sent
          | succ i => exact ih hrest _ _ ha

/-- Under every schedule each result has the property that its dialogue ensures. -/
theorem results_run {dialogues : List (Dialogue α)}
    (h : ∀ (i : Nat) (d : Dialogue α), dialogues[i]? = some d → d.Ensures server (p i))
    (permits : Nat) (schedule : List Nat) (sent : List Request) {i : Nat} {a : α}
    (ha : (run server permits schedule sent dialogues).results[i]? = some a) : p i a := by
  have hstart : Ensures server p (start permits sent dialogues).tasks := by
    intro i t ht
    rw [start, List.getElem?_map, Option.map_eq_some_iff] at ht
    obtain ⟨d, hd, rfl⟩ := ht
    exact h i d hd
  exact result_of_ensures (ensures_turns hstart schedule) 0 _ ha

theorem results_run_map {γ : Type} {xs : List γ} {f : γ → Dialogue α} {g : γ → α}
    (h : ∀ x ∈ xs, (f x).Ensures server (· = g x)) (permits : Nat) (schedule : List Nat)
    (sent : List Request) :
    (run server permits schedule sent (xs.map f)).results = xs.map g := by
  have hlength : (run server permits schedule sent (xs.map f)).results.length = xs.length := by
    rw [length_run, List.length_map]
  have hensures : ∀ (i : Nat) (d : Dialogue α), (xs.map f)[i]? = some d →
      d.Ensures server fun a => ∀ x, xs[i]? = some x → a = g x := by
    intro i d hd
    rw [List.getElem?_map, Option.map_eq_some_iff] at hd
    obtain ⟨x, hx, rfl⟩ := hd
    refine (h x (List.mem_of_getElem? hx)).mono ?_
    rintro a rfl y hy
    rw [hx, Option.some.injEq] at hy
    rw [hy]
  apply List.ext_getElem
  · rw [hlength, List.length_map]
  · intro i hi hi'
    rw [List.getElem_map]
    exact results_run hensures permits schedule sent (List.getElem?_eq_getElem hi) _
      (List.getElem?_eq_getElem _)

end Interleaving

end LicenseChooser.Http
