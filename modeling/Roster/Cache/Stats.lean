import Roster.Json.Decode

namespace Roster.Cache

/-! What a cache has done and holds. -/

/-- Look-ups that found a value, look-ups that did not, values kept, and failures inside. -/
structure Counters where
  hits : Nat := 0
  misses : Nat := 0
  puts : Nat := 0
  errors : Nat := 0
  deriving DecidableEq, Inhabited

namespace Counters

def hit (c : Counters) : Counters := { c with hits := c.hits + 1 }

def miss (c : Counters) : Counters := { c with misses := c.misses + 1 }

def put (c : Counters) : Counters := { c with puts := c.puts + 1 }

def error (c : Counters) : Counters := { c with errors := c.errors + 1 }

end Counters

structure Stats where
  hits : Nat := 0
  misses : Nat := 0
  puts : Nat := 0
  errors : Nat := 0
  evictions : Nat := 0
  expirations : Nat := 0
  entries : Nat := 0
  capacity : Nat := 0
  deriving DecidableEq, Inhabited

namespace Stats

/-- The share of look-ups that found a value: zero before the first one. -/
def hitRate (stats : Stats) : Float :=
  let total := stats.hits + stats.misses
  if total = 0 then 0.0 else stats.hits.toUInt64.toFloat / total.toUInt64.toFloat

def toJson (stats : Stats) : Json :=
  .obj [("hits", .int stats.hits), ("misses", .int stats.misses), ("puts", .int stats.puts),
    ("errors", .int stats.errors), ("evictions", .int stats.evictions),
    ("expirations", .int stats.expirations), ("entries", .int stats.entries),
    ("capacity", .int stats.capacity)]

def fieldNames : List String :=
  ["hits", "misses", "puts", "errors", "evictions", "expirations", "entries", "capacity"]

def ofTree? (tree : Json.Tree) : Option Stats := do
  match ← tree.fields? fieldNames with
  | [hits, misses, puts, errors, evictions, expirations, entries, capacity] =>
    return {
      hits := ← hits.required Json.Tree.count?
      misses := ← misses.required Json.Tree.count?
      puts := ← puts.required Json.Tree.count?
      errors := ← errors.required Json.Tree.count?
      evictions := ← evictions.required Json.Tree.count?
      expirations := ← expirations.required Json.Tree.count?
      entries := ← entries.required Json.Tree.count?
      capacity := ← capacity.required Json.Tree.count? }
  | _ => none

end Stats

end Roster.Cache
