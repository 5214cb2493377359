import Roster.Cache.Lru

namespace Roster.Cache

/-! A bounded map with a lifetime as a plain list of its entries, the least recently used one first.
It says what look-ups, insertions and removals mean, without slots, links or an index. -/

structure Entry (K V : Type) where
  key : K
  value : V
  inserted : Instant

structure Recency (K V : Type) where
  capacity : Nat
  ttl : Span
  entries : List (Entry K V) := []
  evictions : Nat := 0
  expirations : Nat := 0

/-- What can be asked of a bounded map. -/
inductive Operation (K V : Type) where
  | get (key : K) (now : Instant)
  | insert (key : K) (value : V) (now : Instant)
  | remove (key : K)
  | clear

/-- What can be seen of a bounded map after an operation. -/
structure Observation (K V : Type) where
  result : Option V
  keys : List K
  size : Nat
  evictions : Nat
  expirations : Nat

namespace Recency

variable {K V : Type} [BEq K]

def new (capacity : Nat) (ttl : Span) : Recency K V := { capacity, ttl }

def find? (recency : Recency K V) (key : K) : Option (Entry K V) :=
  recency.entries.find? fun entry => entry.key == key

def without (recency : Recency K V) (key : K) : List (Entry K V) :=
  recency.entries.eraseP fun entry => entry.key == key

def get (recency : Recency K V) (key : K) (now : Instant) : Recency K V × Option V :=
  match recency.find? key with
  | none => (recency, none)
  | some entry =>
    if Instant.outlives recency.ttl entry.inserted now then
      ({ recency with
        entries := recency.without key
        expirations := recency.expirations + 1 }, none)
    else ({ recency with entries := recency.without key ++ [entry] }, some entry.value)

/-- Drops the front entry if there is no room for one more. -/
def makeRoom (recency : Recency K V) : Recency K V :=
  if recency.entries.length < recency.capacity then recency
  else
    { recency with
      entries := recency.entries.tail
      evictions := recency.evictions + 1 }

def insert (recency : Recency K V) (key : K) (value : V) (now : Instant) : Recency K V :=
  if recency.capacity = 0 then recency
  else
    match recency.find? key with
    | some entry =>
      { recency with
        entries := recency.without key ++ [{ entry with value, inserted := now }] }
    | none =>
      { recency.makeRoom with
        entries := recency.makeRoom.entries ++ [⟨key, value, now⟩] }

def remove (recency : Recency K V) (key : K) : Recency K V × Option V :=
  match recency.find? key with
  | none => (recency, none)
  | some entry => ({ recency with entries := recency.without key }, some entry.value)

/-- Removes all entries; what was counted stays counted. -/
def clear (recency : Recency K V) : Recency K V := { recency with entries := [] }

def apply (recency : Recency K V) : Operation K V → Recency K V × Option V
  | .get key now => recency.get key now
  | .insert key value now => (recency.insert key value now, none)
  | .remove key => recency.remove key
  | .clear => (recency.clear, none)

def observe (recency : Recency K V) (result : Option V) : Observation K V where
  result := result
  keys := recency.entries.map Entry.key
  size := recency.entries.length
  evictions := recency.evictions
  expirations := recency.expirations

def trace (recency : Recency K V) : List (Operation K V) → List (Observation K V)
  | [] => []
  | operation :: operations =>
    let (recency, result) := recency.apply operation
    recency.observe result :: recency.trace operations

end Recency

namespace Lru

variable {K V : Type} [BEq K] [Hashable K]

def apply (lru : Lru K V) :
    Operation K V → Except CacheError (Lru K V × Option V)
  | .get key now => lru.get key now
  | .insert key value now => do return (← lru.insert key value now, none)
  | .remove key => lru.remove key
  | .clear => .ok (lru.clear, none)

def observe (lru : Lru K V) (result : Option V) : Except CacheError (Observation K V) := do
  return {
    result := result
    keys := ← lru.keysByRecency
    size := lru.size
    evictions := lru.evictions
    expirations := lru.expirations }

/-- What is seen after each of the operations in turn. The first failure ends all. -/
def trace (lru : Lru K V) : List (Operation K V) → Except CacheError (List (Observation K V))
  | [] => .ok []
  | operation :: operations => do
    let (lru, result) ← lru.apply operation
    let observation ← lru.observe result
    return observation :: (← lru.trace operations)

/-- The first failure ends all. -/
def run (lru : Lru K V) : List (Operation K V) → Except CacheError (Lru K V)
  | [] => .ok lru
  | operation :: operations => do
    let (lru, _) ← lru.apply operation
    lru.run operations

end Lru

end Roster.Cache
