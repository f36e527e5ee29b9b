import LicenseChooser.Http.Interleaving

/-!
What a dialogue comes to when it takes turns with others: its result is the one it has with the replies
to its own requests, and stands at its own position. When its turns came, and what the others asked in
between, decides what the server replies and nothing else.
-/

namespace LicenseChooser.Http

variable {α β : Type}

namespace Dialogue

/-- The result when these replies come in; none if it asks for more of them. -/
def after : Dialogue α → List Reply → Option α
  | done a, _ => some a
  | ask _ next, reply :: replies => (next reply).after replies
  | ask _ _, [] => none

/-- The replies that it gets alone after the requests of `sent`. -/
def replies (server : Server) (sent : List Request) : Dialogue α → List Reply
  | done _ => []
  | ask r next =>
      server sent r :: (next (server sent r)).replies server (sent ++ [r])

theorem after_replies (server : Server) (d : Dialogue α) (sent : List Request) :
    d.after (d.replies server sent) = some (d.run server sent).1 := by
  induction d generalizing sent with
  | done a => rfl
  | ask r next ih => exact ih (server sent r) (sent ++ [r])

theorem after_map (f : α → β) (d : Dialogue α) (replies : List Reply) :
    (d.map f).after replies = (d.after replies).map f := by
  induction d generalizing replies with
  | done a => rfl
  | ask r next ih =>
      cases replies with
      | nil => rfl
      | cons reply replies => exact ih reply replies

theorem run_map (f : α → β) (server : Server) (d : Dialogue α) (sent : List Request) :
    (d.map f).run server sent = (f (d.run server sent).1, (d.run server sent).2) := by
  induction d generalizing sent with
  | done a => rfl
  | ask r next ih => exact ih (server sent r) (sent ++ [r])

/-- The requests that it sends alone after those of `before`. -/
def asked (server : Server) (before : List Request) : Dialogue α → List Request
  | done _ => []
  | ask r next => r :: (next (server before r)).asked server (before ++ [r])

theorem sent_run (server : Server) (d : Dialogue α) (before : List Request) :
    (d.run server before).2 = before ++ d.asked server before := by
  induction d generalizing before with
  | done a => exact (List.append_nil before).symm
  | ask r next ih => rw [run, ih, asked, List.append_assoc, List.singleton_append]

end Dialogue

def Task.after : Task α → List Reply → Option α
  | .running d, replies => d.after replies
  | .finished a, _ => some a

namespace Interleaving

/-- The reply that a turn of the task at a position brings it. -/
def replyTo (server : Server) (s : Interleaving α) (i : Nat) : List Reply :=
  if s.admits i then
    match s.tasks[i]? with
    | some (.running (.ask r _)) => [server s.sent r]
    | _ => []
  else []

/-- The replies that the task at position `i` gets while those left over run to their end. -/
def receivedAtEnd (server : Server) (sent : List Request) : Nat → List (Task α) → List Reply
  | _, [] => []
  | 0, .finished _ :: _ => []
  | 0, .running d :: _ => d.replies server sent
  | i + 1, .finished _ :: rest => receivedAtEnd server sent i rest
  | i + 1, .running d :: rest => receivedAtEnd server (d.run server sent).2 i rest

/-- All replies that the task at position `i` gets under a schedule, in order. -/
def received (server : Server) (i : Nat) : List Nat → Interleaving α → List Reply
  | [], s => receivedAtEnd server s.sent i s.tasks
  | j :: schedule, s =>
      (if j = i then s.replyTo server i else []) ++ received server i schedule (s.turn server j)

def outcome (s : Interleaving α) (i : Nat) (replies : List Reply) : Option α :=
  s.tasks[i]?.bind (·.after replies)

/-- What a turn can do: bring a result, send a request or nothing. -/
theorem turn_cases (server : Server) (s : Interleaving α) (j : Nat) :
    (∃ a, s.admits j = true ∧ s.tasks[j]? = some (.running (.done a)) ∧
      s.turn server j =
        { s with tasks := s.tasks.set j (.finished a), finished := s.finished ++ [j] } ∧
      s.replyTo server j = []) ∨
    (∃ r next, s.admits j = true ∧ s.tasks[j]? = some (.running (.ask r next)) ∧
      s.turn server j =
        { s with tasks := s.tasks.set j (.running (next (server s.sent r))), sent := s.sent ++ [r] } ∧
      s.replyTo server j = [server s.sent r]) ∨
    s.turn server j = s ∧ s.replyTo server j = [] := by
  cases hadmits : s.admits j with
  | false =>
      have hno : ¬ s.admits j = true := by simp [hadmits]
      exact .inr (.inr ⟨if_neg hno, if_neg hno⟩)
  | true =>
      rw [turn, replyTo, if_pos hadmits, if_pos hadmits]
      cases ht : s.tasks[j]? with
      | none => exact .inr (.inr ⟨rfl, rfl⟩)
      | some t =>
          match t with
          | .finished a => exact .inr (.inr ⟨rfl, rfl⟩)
          | .running (.done a) => exact .inl ⟨a, rfl, rfl, rfl, rfl⟩
          | .running (.ask r next) => exact .inr (.inl ⟨r, next, rfl, rfl, rfl, rfl⟩)

theorem length_turn (server : Server) (s : Interleaving α) (j : Nat) :
    (s.turn server j).tasks.length = s.tasks.length := by
  rcases turn_cases server s j with ⟨a, -, -, h, -⟩ | ⟨r, next, -, -, h, -⟩ | ⟨h, -⟩ <;> simp [h]

theorem permits_turn (server : Server) (s : Interleaving α) (j : Nat) :
    (s.turn server j).permits = s.permits := by
  rcases turn_cases server s j with ⟨a, -, -, h, -⟩ | ⟨r, next, -, -, h, -⟩ | ⟨h, -⟩ <;> rw [h]

/-- A turn leaves the other tasks as they are. -/
theorem getElem?_turn (server : Server) (s : Interleaving α) {i j : Nat} (h : j ≠ i) :
    (s.turn server j).tasks[i]? = s.tasks[i]? := by
  rcases turn_cases server s j with ⟨a, -, -, hturn, -⟩ | ⟨r, next, -, -, hturn, -⟩ | ⟨hturn, -⟩
  · rw [hturn, List.getElem?_set_ne h]
  · rw [hturn, List.getElem?_set_ne h]
  · rw [hturn]

/-- A turn gives its task a reply and takes no reply from the others. -/
theorem outcome_turn (server : Server) (s : Interleaving α) (i j : Nat) (replies : List Reply) :
    (s.turn server j).outcome i replies =
      s.outcome i ((if j = i then s.replyTo server i else []) ++ replies) := by
  by_cases hij : j = i
  · subst hij
    rw [if_pos rfl, outcome, outcome]
    rcases turn_cases server s j with
      ⟨a, -, ht, hturn, hreply⟩ | ⟨r, next, -, ht, hturn, hreply⟩ | ⟨hturn, hreply⟩
    · have hj := (List.getElem?_eq_some_iff.1 ht).1
      rw [hturn, hreply, ht, List.getElem?_set_self hj]
      rfl
    · have hj := (List.getElem?_eq_some_iff.1 ht).1
      rw [hturn, hreply, ht, List.getElem?_set_self hj]
      rfl
    · rw [hturn, hreply, List.nil_append]
  · rw [if_neg hij, List.nil_append, outcome, outcome, getElem?_turn server s hij]

theorem length_conclude (server : Server) (start : Nat) (sent : List Request)
    (tasks : List (Task α)) :
    (conclude server start sent tasks).results.length = tasks.length := by
  induction tasks generalizing start sent with
  | nil => rfl
  | cons t rest ih =>
      cases t with
      | running d => exact congrArg (· + 1) (ih (start + 1) (d.run server sent).2)
      | finished a => exact congrArg (· + 1) (ih (start + 1) sent)

theorem result_conclude (server : Server) (start : Nat) (sent : List Request)
    (tasks : List (Task α)) (i : Nat) :
    (conclude server start sent tasks).results[i]? =
      tasks[i]?.bind (·.after (receivedAtEnd server sent i tasks)) := by
  induction tasks generalizing start sent i with
  | nil => rfl
  | cons t rest ih =>
      cases t with
      | running d =>
          cases i with
          | zero => exact (d.after_replies server sent).symm
          | succ i => exact ih (start + 1) (d.run server sent).2 i
      | finished a =>
          cases i with
          | zero => rfl
          | succ i => exact ih (start + 1) sent i

theorem outcome_start (permits : Nat) (sent : List Request) (dialogues : List (Dialogue α)) (i : Nat)
    (replies : List Reply) :
    (start permits sent dialogues).outcome i replies = dialogues[i]?.bind (·.after replies) := by
  rw [outcome, start, List.getElem?_map]
  cases dialogues[i]? with
  | none => rfl
  | some d => rfl

theorem outcome_turns (server : Server) (schedule : List Nat) (s : Interleaving α) (i : Nat) :
    (conclude server 0 (schedule.foldl (turn server) s).sent
      (schedule.foldl (turn server) s).tasks).results[i]? =
      s.outcome i (received server i schedule s) := by
  induction schedule generalizing s with
  | nil => exact result_conclude server 0 s.sent s.tasks i
  | cons j schedule ih =>
      rw [List.foldl_cons, ih, outcome_turn]
      rfl

/-- Under every schedule the result at a position is that of its dialogue with the replies that it
received. -/
theorem result_run (server : Server) (permits : Nat) (schedule : List Nat) (sent : List Request)
    (dialogues : List (Dialogue α)) (i : Nat) :
    (run server permits schedule sent dialogues).results[i]? =
      dialogues[i]?.bind (·.after (received server i schedule (start permits sent dialogues))) := by
  rw [← outcome_start]
  exact outcome_turns server schedule (start permits sent dialogues) i

theorem length_turns (server : Server) (schedule : List Nat) (s : Interleaving α) :
    (schedule.foldl (turn server) s).tasks.length = s.tasks.length := by
  induction schedule generalizing s with
  | nil => rfl
  | cons j schedule ih => exact (ih _).trans (length_turn server s j)

theorem length_run (server : Server) (permits : Nat) (schedule : List Nat) (sent : List Request)
    (dialogues : List (Dialogue α)) :
    (run server permits schedule sent dialogues).results.length = dialogues.length := by
  rw [run, length_conclude, length_turns, start, List.length_map]

end Interleaving

end LicenseChooser.Http
