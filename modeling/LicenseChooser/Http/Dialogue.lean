import LicenseChooser.Http.Message

/-!
What an operation does on the network, apart from any network: it is done, or it asks and goes on
with the reply. A server answers by all that was asked before; running a dialogue against one gives
its result and the requests in the order in which they were sent. Several dialogues run side by side
under a schedule that says whose turn it is.
-/

namespace LicenseChooser.Http

inductive Dialogue (α : Type) where
  | done (result : α)
  | ask (request : Request) (next : Reply → Dialogue α)

/-- The reply to a request after those already answered, oldest first. -/
abbrev Server := List Request → Request → Reply

/-- No request reaches anything. -/
def Server.unreachable : Server := fun _ _ => none

namespace Dialogue

variable {α β : Type}

def bind (d : Dialogue α) (f : α → Dialogue β) : Dialogue β :=
  match d with
  | done a => f a
  | ask r next => ask r fun reply => (next reply).bind f

def map (f : α → β) (d : Dialogue α) : Dialogue β := d.bind fun a => done (f a)

/-- The result, and all requests sent so far after those of `sent`. -/
def run (server : Server) (sent : List Request) : Dialogue α → α × List Request
  | done a => (a, sent)
  | ask r next => run server (sent ++ [r]) (next (server sent r))

/-- The first request, if any is sent. -/
def first? : Dialogue α → Option Request
  | done _ => none
  | ask r _ => some r

def isDone : Dialogue α → Bool
  | done _ => true
  | ask _ _ => false

/-- One request and its reply. -/
def step (server : Server) (sent : List Request) : Dialogue α → Dialogue α × List Request
  | done a => (done a, sent)
  | ask r next => (next (server sent r), sent ++ [r])

end Dialogue

end LicenseChooser.Http
