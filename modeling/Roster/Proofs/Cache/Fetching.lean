import Roster.Cache.Memo
import Roster.Proofs.Cache.Contents

namespace Roster.Cache.Memo

/-! What each step of a call can do to a cache of fetched answers. -/

variable {K V : Type} [BEq K] [Hashable K]

/-- How a look-up can end: it hits, it misses, or the cache has failed and is emptied. -/
inductive Looked (memo : Memo K V) (key : K) (now : Instant) (good : Entry K V → Prop) :
    Memo K V × Option V → Prop
  | hit {entries : Lru K V} {entry : Entry K V} (working : memo.poisoned = false)
      (sound : entries.Sound good) (isGood : good entry) (equal : entry.key == key)
      (fresh : Instant.outlives memo.entries.ttl entry.inserted now = false)
      (ttl : entries.ttl = memo.entries.ttl) :
      Looked memo key now good
        ({ memo with entries, counters := memo.counters.hit }, some entry.value)
  | missed {entries : Lru K V} (working : memo.poisoned = false) (sound : entries.Sound good)
      (ttl : entries.ttl = memo.entries.ttl) :
      Looked memo key now good ({ memo with entries, counters := memo.counters.miss }, none)
  | reset (poisoned : memo.poisoned = true) : Looked memo key now good (memo.bypass, none)

/-- What can become of an answer that was fetched: it is kept, or it meets a cache that has failed. -/
inductive Kept (memo : Memo K V) (key : K) (value : V) (now : Instant)
    (good : Entry K V → Prop) : Memo K V → Prop
  | stored {entries : Lru K V} (working : memo.poisoned = false)
      (inserts : memo.entries.insert key value now = .ok entries) (sound : entries.Sound good)
      (ttl : entries.ttl = memo.entries.ttl) :
      Kept memo key value now good { memo with entries, counters := memo.counters.put }
  | reset (poisoned : memo.poisoned = true) : Kept memo key value now good memo.bypass

variable {memo after : Memo K V} {good : Entry K V → Prop} {key : K} {now : Instant}

theorem Looked.entries_sound {found : Option V} (looked : memo.Looked key now good (after, found))
    (sound : memo.entries.Sound good) : after.entries.Sound good := by
  cases looked with
  | hit _ sound' | missed _ sound' => exact sound'
  | reset => exact sound.clear good

theorem Kept.entries_sound {value : V} (kept : memo.Kept key value now good after)
    (sound : memo.entries.Sound good) : after.entries.Sound good := by
  cases kept with
  | stored _ _ sound' => exact sound'
  | reset => exact sound.clear good

theorem Looked.ttl_eq {found : Option V} (looked : memo.Looked key now good (after, found)) :
    after.entries.ttl = memo.entries.ttl := by
  cases looked with
  | hit _ _ _ _ _ ttl | missed _ _ ttl => exact ttl
  | reset => rfl

theorem Kept.ttl_eq {value : V} (kept : memo.Kept key value now good after) :
    after.entries.ttl = memo.entries.ttl := by
  cases kept with
  | stored _ _ _ ttl => exact ttl
  | reset => rfl

variable [EquivBEq K] [LawfulHashable K]

theorem look_looked (sound : memo.entries.Sound good) (key : K) (now : Instant) :
    memo.Looked key now good (memo.look key now) := by
  rw [look, withEntries]
  by_cases poisoned : memo.poisoned = true
  · rw [if_pos poisoned]
    exact .reset poisoned
  · have working : memo.poisoned = false := Bool.not_eq_true _ ▸ poisoned
    obtain ⟨entries, found, gets, sound', ttl, hits, -⟩ := sound.get key now
    rw [if_neg poisoned, gets]
    cases found with
    | none => exact .missed working sound' ttl
    | some value =>
        obtain ⟨entry, isGood, equal, rfl, fresh⟩ := hits value rfl
        exact .hit working sound' isGood equal fresh ttl

theorem keep_kept (sound : memo.entries.Sound good) {value : V}
    (safe : ∀ stored, stored == key → good ⟨stored, value, now⟩) :
    memo.Kept key value now good (memo.keep key value now) := by
  rw [keep, withEntries]
  by_cases poisoned : memo.poisoned = true
  · rw [if_pos poisoned]
    exact .reset poisoned
  · have working : memo.poisoned = false := Bool.not_eq_true _ ▸ poisoned
    obtain ⟨entries, inserts, sound', ttl⟩ := sound.insert safe
    rw [if_neg poisoned, inserts]
    exact .stored working inserts sound' ttl

end Roster.Cache.Memo
