import Roster.Database.Store
import Roster.Store.Memory

namespace Roster.Store

/-! What is asked of a store, whether it keeps its characters in memory or in a database, and what it
answers. -/

inductive Operation where
  | upsert (characters : List Character)
  | query (query : Listing.Query)
  | count

inductive Response where
  | written (ids : Nat)
  | slice (slice : Listing.Slice)
  | counted (rows : Nat)

namespace Memory

def respond (store : Memory) : Operation → Memory × Response
  | .upsert characters =>
    let (store, ids) := store.upsert characters
    (store, .written ids)
  | .query query => (store, .slice (store.query query))
  | .count => (store, .counted store.count)

def serve (store : Memory) : List Operation → Memory × List Response
  | [] => (store, [])
  | operation :: rest =>
    let (store, response) := store.respond operation
    let (store, responses) := store.serve rest
    (store, response :: responses)

end Memory

end Roster.Store

namespace Roster.Database

namespace Store

variable {σ : Type} (server : Server σ)

def respond (store : Store σ) :
    Roster.Store.Operation → Store σ × Except StoreError Roster.Store.Response
  | .upsert characters =>
    let (store, result) := store.upsert server characters
    (store, result.map .written)
  | .query query =>
    let (store, result) := store.query server query
    (store, result.map .slice)
  | .count =>
    let (store, result) := store.count server
    (store, result.map .counted)

def serve (store : Store σ) :
    List Roster.Store.Operation → Store σ × List (Except StoreError Roster.Store.Response)
  | [] => (store, [])
  | operation :: rest =>
    let (store, response) := store.respond server operation
    let (store, responses) := store.serve rest
    (store, response :: responses)

end Store

end Roster.Database
