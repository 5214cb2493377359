import Roster.Store.Error
import Roster.Store.Memory
import Roster.Time.Instant

namespace Roster.Simulation

/-! A store in memory that counts what it is asked for, takes its time, and fails as it is told to. -/

structure FaultyStore where
  memory : Store.Memory := {}
  queryError : Option StoreError := none
  upsertError : Option StoreError := none
  lockError : Option StoreError := none
  releaseError : Option StoreError := none
  /-- Whether whoever writes comes to grief. -/
  crashes : Bool := false
  queries : Nat := 0
  upserts : Nat := 0
  /-- What a query takes, in nanoseconds. -/
  queryDelay : Nat := 0
  /-- What taking a lock takes, and giving it up. -/
  lockDelay : Nat := 0

namespace FaultyStore

def fails {α : Type} (error : Option StoreError) (value : α) : Except StoreError α :=
  match error with
  | some error => .error error
  | none => .ok value

def count (store : FaultyStore) : Except StoreError Nat := fails store.queryError store.memory.count

/-- Takes a query; the answer is due after the delay. -/
def receiveQuery (store : FaultyStore) (now : Instant) : FaultyStore × Instant :=
  ({ store with queries := store.queries + 1 }, ⟨now.nanos + store.queryDelay⟩)

def query (store : FaultyStore) (query : Listing.Query) : Except StoreError Listing.Slice :=
  fails store.queryError (store.memory.query query)

def upsert (store : FaultyStore) (characters : List Character) :
    FaultyStore × Option (Except StoreError Nat) :=
  let counted := { store with upserts := store.upserts + 1 }
  if store.crashes then (store, none)
  else
    match store.upsertError with
    | some error => (counted, some (.error error))
    | none =>
      let (memory, written) := store.memory.upsert characters
      ({ counted with memory }, some (.ok written))

def tryLock (store : FaultyStore) (key : LockKey) : FaultyStore × Except StoreError (Option Lease) :=
  match store.lockError with
  | some error => (store, .error error)
  | none =>
    let (locks, lease) := store.memory.locks.tryLock key
    ({ store with memory := { store.memory with locks } }, .ok lease)

/-- Gives up a lease; this cannot be prevented. -/
def free (store : FaultyStore) (lease : Lease) : FaultyStore :=
  { store with memory := { store.memory with locks := store.memory.locks.free lease } }

end FaultyStore

end Roster.Simulation
