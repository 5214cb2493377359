namespace Roster

/-! Failures inside a cache. They never reach its callers. -/

inductive CacheError where
  | lockPoisoned (cache : String)
  | corrupted (reason : String)
  deriving DecidableEq, Inhabited

namespace CacheError

def message : CacheError → String
  | lockPoisoned cache => "Cache lock poisoned: " ++ cache
  | corrupted reason => "Cache index corrupted: " ++ reason

end CacheError

end Roster
