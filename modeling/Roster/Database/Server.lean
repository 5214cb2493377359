import Roster.Database.Script

namespace Roster.Database

/-! What is on the other side of the connections: a server that opens sessions and answers what is
sent in them. `σ` is the type of its states. -/

abbrev Session := Nat

structure Server (σ : Type) where
  connect : σ → σ × Except Failure Session
  answer : σ → Session → Request → σ × Except Failure Answer
  /-- Whether a session has not ended. -/
  isOpen : σ → Session → Bool
  /-- Ends a session, and with it the locks that it holds. -/
  disconnect : σ → Session → σ

namespace Server

variable {σ α : Type}

/-- Carries a script through in a session. -/
def run (server : Server σ) (session : Session) (state : σ) :
    Script α → σ × Except Failure α
  | .done result => (state, result)
  | .send request next =>
    let (state, answer) := server.answer state session request
    run server session state (next answer)

end Server

end Roster.Database
