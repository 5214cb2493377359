import Roster.Cache.Lru
import Roster.Cache.Stats

namespace Roster.Cache

/-! A read-through cache that loads a missing value once for all who ask for it meanwhile. The first
to miss a key leads: it runs its loader. Others join its flight and are told the leader's result,
value or error; if the leader is gone they run their own loaders.

A generation is counted up whenever the entries are emptied. A leader stores its value only in the
generation in which it began, so what was loaded before the entries were emptied is not stored
afterwards. Failures inside the cache are counted, empty the entries and never reach a caller. -/

structure Ticket where
  number : Nat
  deriving DecidableEq, Inhabited

/-- What a waiting call is told: the result of the flight it joined, or nothing if the flight was
given up. -/
structure Notice (V E : Type) where
  ticket : Ticket
  result : Option (Except E V)

structure Coalescing (K V : Type) [BEq K] [Hashable K] where
  name : String
  entries : Lru K V
  /-- Whether a failure under the lock of the entries has left it unusable. -/
  poisoned : Bool := false
  generation : Nat := 0
  /-- The keys that are being loaded, with the calls that wait in order of joining. -/
  flights : List (K × List Ticket) := []
  nextTicket : Nat := 0
  counters : Counters := {}

namespace Coalescing

variable {K V E : Type} [BEq K] [Hashable K]

def new (name : String) (capacity : Nat) (ttl : Span) : Coalescing K V :=
  { name, entries := .new capacity ttl }

/-- The lead of a flight. Whoever ends the flight with it leaves it without a key, and a lead
without a key ends nothing. -/
structure Lead (K : Type) where
  key? : Option K

inductive Call (K : Type) where
  /-- Loads for itself and all who join, and stores the value. -/
  | leading (lead : Lead K) (key : K) (generation : Nat)
  | waiting (ticket : Ticket)
  /-- Loads for itself alone and stores nothing. -/
  | direct

/-- How a call begins: with the value at hand, or with a wait. -/
inductive Begin (K V : Type) where
  | hit (value : V)
  | pending (call : Call K)

def clear (cache : Coalescing K V) : Coalescing K V :=
  { cache with
    entries := cache.entries.clear
    generation := cache.generation + 1
    poisoned := false }

/-- What every failure inside the cache leads to. -/
def bypass (cache : Coalescing K V) : Coalescing K V :=
  { cache with counters := cache.counters.error }.clear

def lookup (cache : Coalescing K V) (key : K) (now : Instant) :
    Except CacheError (Coalescing K V × Option V) :=
  if cache.poisoned then .error (.lockPoisoned cache.name)
  else do
    let (entries, found) ← cache.entries.get key now
    return ({ cache with entries }, found)

/-- The calls that wait for the flight for a key, if there is one. -/
def waiters? (cache : Coalescing K V) (key : K) : Option (List Ticket) :=
  (cache.flights.find? fun flight => flight.1 == key).map Prod.snd

def join (cache : Coalescing K V) (key : K) : Coalescing K V × Option Ticket :=
  match cache.waiters? key with
  | some _ =>
    let ticket : Ticket := ⟨cache.nextTicket⟩
    ({ cache with
      nextTicket := cache.nextTicket + 1
      flights := cache.flights.map fun flight =>
        if flight.1 == key then (flight.1, flight.2 ++ [ticket]) else flight }, some ticket)
  | none => ({ cache with flights := cache.flights ++ [(key, [])] }, none)

def takeWaiters (cache : Coalescing K V) (key : K) : Coalescing K V × List Ticket :=
  ({ cache with flights := cache.flights.filter fun flight => !(flight.1 == key) },
    (cache.waiters? key).getD [])

namespace Lead

/-- Ends a flight and tells all who joined it the same: its result, or that it was given up. -/
def close (lead : Lead K) (cache : Coalescing K V) (result : Option (Except E V)) :
    Lead K × Coalescing K V × List (Notice V E) :=
  match lead.key? with
  | some key =>
    let (cache, tickets) := cache.takeWaiters key
    (⟨none⟩, cache, tickets.map fun ticket => ⟨ticket, result⟩)
  | none => (lead, cache, [])

def complete (lead : Lead K) (cache : Coalescing K V) (result : Except E V) :
    Lead K × Coalescing K V × List (Notice V E) :=
  lead.close cache (some result)

/-- What becomes of a lead that nobody uses any more: a flight that it has not ended is given up. -/
def drop (lead : Lead K) (cache : Coalescing K V) : Coalescing K V × List (Notice V E) :=
  let (_, cache, notices) := lead.close cache none
  (cache, notices)

end Lead

def complete (cache : Coalescing K V) (lead : Lead K) (result : Except E V) :
    Coalescing K V × List (Notice V E) :=
  let (lead, cache, notices) := lead.complete cache result
  let (cache, others) := lead.drop cache
  (cache, notices ++ others)

/-- Keeps a loaded value, unless the entries were emptied meanwhile. -/
def store (cache : Coalescing K V) (key : K) (value : V) (generation : Nat) (now : Instant) :
    Coalescing K V :=
  if cache.poisoned then cache.bypass
  else if cache.generation ≠ generation then cache
  else
    match cache.entries.insert key value now with
    | .ok entries => { cache with entries, counters := cache.counters.put }
    | .error _ => cache.bypass

/-- Takes the lead for a key. A value that was stored since the miss is used at once. -/
def lead (cache : Coalescing K V) (key : K) (now : Instant) :
    Coalescing K V × Begin K V × List (Notice V E) :=
  let lead : Lead K := ⟨some key⟩
  match cache.lookup key now with
  | .ok (found, some value) =>
    let (cache, notices) := found.complete lead (.ok value)
    (cache, .hit value, notices)
  | .ok (missed, none) => (missed, .pending (.leading lead key cache.generation), [])
  | .error _ => (cache, .pending (.leading lead key cache.generation), [])

def begin (cache : Coalescing K V) (key : K) (now : Instant) :
    Coalescing K V × Begin K V × List (Notice V E) :=
  match cache.lookup key now with
  | .ok (cache, some value) =>
    ({ cache with counters := cache.counters.hit }, .hit value, [])
  | .ok (cache, none) =>
    match { cache with counters := cache.counters.miss }.join key with
    | (cache, some ticket) => (cache, .pending (.waiting ticket), [])
    | (cache, none) => cache.lead key now
  | .error _ => (cache.bypass, .pending .direct, [])

def finish (cache : Coalescing K V) (call : Call K) (result : Except E V) (now : Instant) :
    Coalescing K V × List (Notice V E) :=
  match call with
  | .leading lead key generation =>
    let cache :=
      match result with
      | .ok value => cache.store key value generation now
      | .error _ => cache
    cache.complete lead result
  | .waiting _ => (cache, [])
  | .direct => (cache, [])

def abandon (cache : Coalescing K V) (call : Call K) : Coalescing K V × List (Notice V E) :=
  match call with
  | .leading lead _ _ => lead.drop cache
  | .waiting _ => (cache, [])
  | .direct => (cache, [])

def poison (cache : Coalescing K V) : Coalescing K V := { cache with poisoned := true }

def stats (cache : Coalescing K V) : Stats where
  hits := cache.counters.hits
  misses := cache.counters.misses
  puts := cache.counters.puts
  errors := cache.counters.errors
  evictions := cache.entries.evictions
  expirations := cache.entries.expirations
  entries := cache.entries.size
  capacity := cache.entries.capacity

end Coalescing

end Roster.Cache
