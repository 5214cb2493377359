import Roster.Database.Store

namespace Roster.Database

/-! What is asked of a store, and what it sends to its server: each request and its reply in a
journal, which changes nothing. -/

/-- A request, and what has come back. -/
structure Exchange where
  request : Request
  reply : Except Failure Answer

variable {σ : Type}

/-- An exchange, and the session in which it took place. -/
structure Note where
  session : Session
  exchange : Exchange

/-- The latest note is the last. -/
abbrev Journal := List Note

namespace Server

/-- The same server, with a journal. -/
def noting (server : Server σ) : Server (σ × Journal) where
  connect state :=
    let (after, result) := server.connect state.1
    ((after, state.2), result)
  answer state session request :=
    let (after, reply) := server.answer state.1 session request
    ((after, state.2 ++ [⟨session, request, reply⟩]), reply)
  isOpen state := server.isOpen state.1
  disconnect state session := (server.disconnect state.1 session, state.2)

end Server

namespace Store

/-- The store without the journal. -/
def forget (store : Store (σ × Journal)) : Store σ := { store with state := store.state.1 }

end Store

/-- What is asked of a store. -/
inductive Demand where
  | upsert (characters : List Character)
  | query (query : Listing.Query)
  | count
  | ping
  | createSchema
  | tryLock (key : LockKey)
  | release (lease : Lease)
  | drop (lease : Lease)
  | close

namespace Store

def meet (server : Server σ) (store : Store σ) : Demand → Store σ
  | .upsert characters => (store.upsert server characters).1
  | .query query => (store.query server query).1
  | .count => (store.count server).1
  | .ping => (store.ping server).1
  | .createSchema => (store.createSchema server).1
  | .tryLock key => (store.tryLock server key).1
  | .release lease => (store.release server lease).1
  | .drop lease => store.drop server lease
  | .close => store.close server

end Store

end Roster.Database
