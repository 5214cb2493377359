import Roster.Character.Batch
import Roster.Listing.Page
import Roster.LockTable

namespace Roster.Store

/-! A store that keeps its characters in memory, with the locks that go with it. -/

structure Memory where
  rows : Batch := {}
  locks : LockTable := {}
  deriving DecidableEq, Inhabited

namespace Memory

/-- Writes characters, each over the one stored under its id; of several with one id the last. Gives
the number of ids written. -/
def upsert (store : Memory) (characters : List Character) : Memory × Nat :=
  let written := Batch.ofList characters
  ({ store with rows := store.rows.insertAll written.rows }, written.size)

def count (store : Memory) : Nat := store.rows.size

def get? (store : Memory) (id : Int64) : Option Character := store.rows.get? id

/-- Whether one character may stand before another in a listing sorted upwards. -/
def ascends (sort : Listing.SortKey) (a b : Character) : Bool :=
  match sort with
  | .id => decide (a.id ≤ b.id)
  | .name => decide (a.name < b.name) || (a.name == b.name && decide (a.id ≤ b.id))

def precedes (query : Listing.Query) (a b : Character) : Bool :=
  match query.direction with
  | .ascending => ascends query.sort a b
  | .descending => ascends query.sort b a

/-- All characters in the order of a query. -/
def ordered (store : Memory) (query : Listing.Query) : List Character :=
  store.rows.rows.mergeSort (precedes query)

def query (store : Memory) (query : Listing.Query) : Listing.Slice :=
  .ofRows query (((store.ordered query).drop query.offset).take query.size.toNat) store.count

end Memory

end Roster.Store
