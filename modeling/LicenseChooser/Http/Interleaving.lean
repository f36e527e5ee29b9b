import LicenseChooser.Http.Dialogue

/-!
Dialogues side by side. A schedule names the dialogue whose turn it is; a turn is one request with its
reply, or the end of the dialogue. A schedule may be anything: turns that cannot be taken are idle, and
what it leaves unfinished runs to its end in order of position.

So many dialogues may be under way as there are permits. All of them ask for a permit at once, in order
of position, and keep it until they end, so whose turn comes first among those that wait is not left to
the schedule.
-/

namespace LicenseChooser.Http

/-- A dialogue that takes turns with others, or its result. -/
inductive Task (α : Type) where
  | running (dialogue : Dialogue α)
  | finished (result : α)

def Task.isRunning {α : Type} : Task α → Bool
  | running _ => true
  | finished _ => false

/-- Tasks by position, how many may be under way, what they have sent, and the positions of those that
finished, in that order. -/
structure Interleaving (α : Type) where
  tasks : List (Task α)
  permits : Nat
  sent : List Request
  finished : List Nat

/-- The results by position, everything sent, and the order in which the dialogues finished. -/
structure Conclusion (α : Type) where
  results : List α
  sent : List Request
  finished : List Nat

namespace Interleaving

variable {α : Type}

def start (permits : Nat) (sent : List Request) (dialogues : List (Dialogue α)) : Interleaving α :=
  ⟨dialogues.map .running, permits, sent, []⟩

/-- Whether a task at a position has a permit. Those before it have theirs first, and of these only the
ones that are still running keep it. -/
def admits (s : Interleaving α) (i : Nat) : Bool :=
  (s.tasks.take i).countP Task.isRunning < s.permits

/-- A turn of the task at a position. -/
def turn (server : Server) (s : Interleaving α) (i : Nat) : Interleaving α :=
  if s.admits i then
    match s.tasks[i]? with
    | some (.running (.done a)) =>
        { s with tasks := s.tasks.set i (.finished a), finished := s.finished ++ [i] }
    | some (.running (.ask r next)) =>
        { s with tasks := s.tasks.set i (.running (next (server s.sent r))), sent := s.sent ++ [r] }
    | some (.finished _) | none => s
  else s

/-- Runs the tasks from position `i` on to their end, one after the other. -/
def conclude (server : Server) (i : Nat) (sent : List Request) : List (Task α) → Conclusion α
  | [] => ⟨[], sent, []⟩
  | .finished a :: rest =>
      let c := conclude server (i + 1) sent rest
      { c with results := a :: c.results }
  | .running d :: rest =>
      let (a, sent) := d.run server sent
      let c := conclude server (i + 1) sent rest
      { c with results := a :: c.results, finished := i :: c.finished }

/-- Runs dialogues side by side after the requests of `sent`. -/
def run (server : Server) (permits : Nat) (schedule : List Nat) (sent : List Request)
    (dialogues : List (Dialogue α)) : Conclusion α :=
  let s := schedule.foldl (turn server) (start permits sent dialogues)
  let c := conclude server 0 s.sent s.tasks
  { c with finished := s.finished ++ c.finished }

end Interleaving

end LicenseChooser.Http
