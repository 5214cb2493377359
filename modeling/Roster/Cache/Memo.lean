import Roster.Cache.Lru
import Roster.Cache.Stats

namespace Roster.Cache

/-! A cache of answers that were fetched. Nothing is shared while a fetch is under way: each call
that finds no answer fetches its own. Failures inside the cache are counted, empty the entries and
never reach a caller. -/

structure Memo (K V : Type) [BEq K] [Hashable K] where
  name : String
  entries : Lru K V
  poisoned : Bool := false
  counters : Counters := {}

namespace Memo

variable {K V : Type} [BEq K] [Hashable K]

def new (name : String) (capacity : Nat) (ttl : Span) : Memo K V :=
  { name, entries := .new capacity ttl }

def clear (memo : Memo K V) : Memo K V :=
  { memo with entries := memo.entries.clear, poisoned := false }

def bypass (memo : Memo K V) : Memo K V :=
  { memo with counters := memo.counters.error }.clear

/-- Runs an operation on the entries if their lock is usable. -/
def withEntries {α : Type} (memo : Memo K V) (run : Lru K V → Except CacheError α) :
    Except CacheError α :=
  if memo.poisoned then .error (.lockPoisoned memo.name) else run memo.entries

/-- Looks for an answer; without one the caller has to fetch. -/
def look (memo : Memo K V) (key : K) (now : Instant) : Memo K V × Option V :=
  match memo.withEntries (·.get key now) with
  | .ok (entries, some value) =>
    ({ memo with entries, counters := memo.counters.hit }, some value)
  | .ok (entries, none) => ({ memo with entries, counters := memo.counters.miss }, none)
  | .error _ => (memo.bypass, none)

def keep (memo : Memo K V) (key : K) (value : V) (now : Instant) : Memo K V :=
  match memo.withEntries (·.insert key value now) with
  | .ok entries => { memo with entries, counters := memo.counters.put }
  | .error _ => memo.bypass

/-- A call that fails under the lock of the entries. With no entries it fails only after its look-up
has missed. -/
def poison (memo : Memo K V) : Memo K V :=
  let looked :=
    if memo.poisoned then memo.bypass
    else if memo.entries.isEmpty then { memo with counters := memo.counters.miss }
    else memo
  { looked with poisoned := true }

def stats (memo : Memo K V) : Stats where
  hits := memo.counters.hits
  misses := memo.counters.misses
  puts := memo.counters.puts
  errors := memo.counters.errors
  evictions := memo.entries.evictions
  expirations := memo.entries.expirations
  entries := memo.entries.size
  capacity := memo.entries.capacity

end Memo

end Roster.Cache
