import Roster.Proofs.Cache.Contents

namespace Roster.Cache.Coalescing

/-! What each step of a call can do to a cache: to its entries, and to its flights, which are seen
as a map from keys to the tickets of those who wait. -/

variable {K V E : Type} [BEq K] [Hashable K]

section Flights

variable [EquivBEq K] {cache : Coalescing K V} {key : K}

theorem waiters?_congr {other : K} (equal : key == other) :
    cache.waiters? key = cache.waiters? other := by
  rw [waiters?, waiters?]
  congr 2
  funext flight
  exact BEq.congr_right equal

theorem waiters?_enlist (ticket : Ticket) (other : K) :
    waiters?
      { cache with
        flights := cache.flights.map fun flight =>
          if flight.1 == key then (flight.1, flight.2 ++ [ticket]) else flight } other =
      if key == other then (cache.waiters? other).map (· ++ [ticket])
      else cache.waiters? other := by
  simp only [waiters?]
  induction cache.flights with
  | nil => simp
  | cons flight rest ih =>
      rw [List.map_cons, List.find?_cons, List.find?_cons]
      by_cases joined : flight.1 == key
      · rw [if_pos joined]
        have same : (flight.1 == other) = (key == other) := BEq.congr_left joined
        cases equal : key == other with
        | true => simp [same, equal]
        | false => simpa [same, equal] using ih
      · rw [if_neg joined]
        cases found : flight.1 == other with
        | true =>
            have differs : (key == other) = false := by
              rw [Bool.eq_false_iff]
              exact fun equal => joined (BEq.trans found (BEq.symm equal))
            simp [differs]
        | false => exact ih

theorem waiters?_launch (unled : cache.waiters? key = none) (other : K) :
    waiters? { cache with flights := cache.flights ++ [(key, [])] } other =
      if key == other then some [] else cache.waiters? other := by
  by_cases equal : key == other
  · have none_other : cache.waiters? other = none := (waiters?_congr equal).symm.trans unled
    simp only [waiters?, Option.map_eq_none_iff] at none_other
    simp [waiters?, none_other, equal]
  · simp [waiters?, equal]

theorem waiters?_launch_of_some (unled : cache.waiters? key = none) {other : K}
    {tickets : List Ticket} (flight : cache.waiters? other = some tickets) :
    waiters? { cache with flights := cache.flights ++ [(key, [])] } other = some tickets := by
  rw [waiters?_launch unled, if_neg, flight]
  intro equal
  rw [← waiters?_congr equal, unled] at flight
  cases flight

theorem waiters?_takeWaiters (other : K) :
    (cache.takeWaiters key).1.waiters? other =
      if key == other then none else cache.waiters? other := by
  simp only [takeWaiters, waiters?]
  induction cache.flights with
  | nil => simp
  | cons flight rest ih =>
      rw [List.filter_cons]
      by_cases ended : flight.1 == key
      · have same : (flight.1 == other) = (key == other) := BEq.congr_left ended
        rw [if_neg (by simp [ended]), ih, List.find?_cons, same]
        cases key == other <;> rfl
      · rw [if_pos (by simp [ended]), List.find?_cons, List.find?_cons]
        cases found : flight.1 == other with
        | true =>
            have differs : (key == other) = false := by
              rw [Bool.eq_false_iff]
              exact fun equal => ended (BEq.trans found (BEq.symm equal))
            simp [differs]
        | false => exact ih

end Flights

section Known

variable {cache : Coalescing K V} {key : K} {now : Instant}

theorem lookup_of_missing (working : cache.poisoned = false)
    (missing : cache.entries.get key now = .ok (cache.entries, none)) :
    cache.lookup key now = .ok (cache, none) := by
  rw [lookup, if_neg (by simp [working]), missing]
  rfl

theorem lookup_of_found {entries : Lru K V} {value : V} (working : cache.poisoned = false)
    (gets : cache.entries.get key now = .ok (entries, some value)) :
    cache.lookup key now = .ok ({ cache with entries }, some value) := by
  rw [lookup, if_neg (by simp [working]), gets]
  rfl

theorem begin_of_found {entries : Lru K V} {value : V} (working : cache.poisoned = false)
    (gets : cache.entries.get key now = .ok (entries, some value)) :
    cache.begin (E := E) key now =
      ({ cache with entries, counters := cache.counters.hit }, .hit value, []) := by
  rw [begin, lookup_of_found working gets]

/-- How a call begins that finds nothing and is the first to ask. -/
theorem begin_of_missing (working : cache.poisoned = false)
    (missing : cache.entries.get key now = .ok (cache.entries, none))
    (unled : cache.waiters? key = none) :
    cache.begin (E := E) key now =
      ({ cache with flights := cache.flights ++ [(key, [])], counters := cache.counters.miss },
        .pending (.leading ⟨some key⟩ key cache.generation), []) := by
  let missed : Coalescing K V := { cache with counters := cache.counters.miss }
  let opened : Coalescing K V := { missed with flights := cache.flights ++ [(key, [])] }
  have joins : missed.join key = (opened, none) := by
    have unled : missed.waiters? key = none := unled
    rw [join, unled]
  have looksAgain : opened.lookup key now = .ok (opened, none) :=
    lookup_of_missing working missing
  rw [begin, lookup_of_missing working missing]
  dsimp only
  rw [joins]
  change opened.lead key now = _
  rw [lead, looksAgain]

/-- How a call begins that finds nothing and is not the first to ask. -/
theorem begin_of_joined {joined : Coalescing K V} {ticket : Ticket} (working : cache.poisoned = false)
    (missing : cache.entries.get key now = .ok (cache.entries, none))
    (joins : { cache with counters := cache.counters.miss }.join key = (joined, some ticket)) :
    cache.begin (E := E) key now = (joined, .pending (.waiting ticket), []) := by
  rw [begin, lookup_of_missing working missing]
  dsimp only
  rw [joins]

theorem store_of_poisoned (poisoned : cache.poisoned = true) (key : K) (value : V)
    (generation : Nat) (now : Instant) : cache.store key value generation now = cache.bypass := by
  rw [store, if_pos poisoned]

theorem store_of_outdated (working : cache.poisoned = false) {generation : Nat}
    (outdated : cache.generation ≠ generation) (key : K) (value : V) (now : Instant) :
    cache.store key value generation now = cache := by
  rw [store, if_neg (by simp [working]), if_pos outdated]

theorem store_of_insert {entries : Lru K V} {value : V} {generation : Nat}
    (working : cache.poisoned = false) (current : cache.generation = generation)
    (inserts : cache.entries.insert key value now = .ok entries) :
    cache.store key value generation now =
      { cache with entries, counters := cache.counters.put } := by
  rw [store, if_neg (by simp [working]), if_neg (not_not_intro current), inserts]

end Known

/-- A lead that has completed its flight ends nothing when it is let go, whatever flights there are
by then. -/
theorem Lead.drop_complete (lead : Lead K) (cache later : Coalescing K V) (result : Except E V) :
    (lead.complete cache result).1.drop (E := E) later = (later, []) := by
  obtain ⟨key?⟩ := lead
  cases key? <;> rfl

theorem complete_eq (cache : Coalescing K V) (key : K) (result : Except E V) :
    cache.complete ⟨some key⟩ result =
      ((cache.takeWaiters key).1,
        (cache.takeWaiters key).2.map fun ticket => ⟨ticket, some result⟩) := by
  let ended := Lead.complete ⟨some key⟩ cache result
  have spent : ended.1.drop (E := E) ended.2.1 = (ended.2.1, []) :=
    Lead.drop_complete ⟨some key⟩ cache ended.2.1 result
  change ((ended.1.drop (E := E) ended.2.1).1,
    ended.2.2 ++ (ended.1.drop (E := E) ended.2.1).2) = _
  rw [spent, List.append_nil]
  rfl

theorem complete_of_alone [EquivBEq K] {cache : Coalescing K V} {key : K}
    (alone : cache.flights = [(key, [])]) (result : Except E V) :
    cache.complete ⟨some key⟩ result = ({ cache with flights := [] }, []) := by
  rw [complete_eq]
  simp [takeWaiters, waiters?, alone]

theorem abandon_leading (cache : Coalescing K V) (led key : K) (generation : Nat) :
    cache.abandon (E := E) (.leading ⟨some led⟩ key generation) =
      ((cache.takeWaiters led).1,
        (cache.takeWaiters led).2.map fun ticket => ⟨ticket, none⟩) := rfl

theorem drop_entries (lead : Lead K) (cache : Coalescing K V) :
    (lead.drop (E := E) cache).1.entries = cache.entries ∧
      (lead.drop (E := E) cache).1.generation = cache.generation := by
  obtain ⟨key?⟩ := lead
  cases key? <;> exact ⟨rfl, rfl⟩

theorem complete_entries (cache : Coalescing K V) (lead : Lead K) (result : Except E V) :
    (cache.complete lead result).1.entries = cache.entries ∧
      (cache.complete lead result).1.generation = cache.generation := by
  obtain ⟨key?⟩ := lead
  cases key? <;> exact ⟨rfl, rfl⟩

/-- How a call can begin: with a hit, in a flight that it joins, in a flight that it opens, or on its
own because the cache has failed. -/
inductive Begun (cache : Coalescing K V) (key : K) (now : Instant) (good : Entry K V → Prop) :
    Coalescing K V → Begin K V → Prop
  | hit {entries : Lru K V} {entry : Entry K V} (working : cache.poisoned = false)
      (sound : entries.Sound good) (isGood : good entry) (equal : entry.key == key)
      (fresh : Instant.outlives cache.entries.ttl entry.inserted now = false)
      (ttl : entries.ttl = cache.entries.ttl) :
      Begun cache key now good { cache with entries, counters := cache.counters.hit }
        (.hit entry.value)
  | joined {entries : Lru K V} (working : cache.poisoned = false) (sound : entries.Sound good)
      (led : (cache.waiters? key).isSome) (ttl : entries.ttl = cache.entries.ttl) :
      Begun cache key now good
        { cache with
          entries
          counters := cache.counters.miss
          nextTicket := cache.nextTicket + 1
          flights := cache.flights.map fun flight =>
            if flight.1 == key then (flight.1, flight.2 ++ [⟨cache.nextTicket⟩]) else flight }
        (.pending (.waiting ⟨cache.nextTicket⟩))
  | opened {entries : Lru K V} (working : cache.poisoned = false) (sound : entries.Sound good)
      (unled : cache.waiters? key = none)
      (missed : entries.Sound fun entry => good entry ∧ (entry.key == key) = false)
      (ttl : entries.ttl = cache.entries.ttl) :
      Begun cache key now good
        { cache with
          entries
          counters := cache.counters.miss
          flights := cache.flights ++ [(key, [])] }
        (.pending (.leading ⟨some key⟩ key cache.generation))
  | bypassed (poisoned : cache.poisoned = true) :
      Begun cache key now good cache.bypass (.pending .direct)

/-- What can become of what was loaded: it is kept, it is not because it is an error or from an
earlier generation, or it meets a cache that has failed. -/
inductive Stored (cache : Coalescing K V) (generation : Nat) (good : Entry K V → Prop) :
    Coalescing K V → Prop
  | kept {entries : Lru K V} (working : cache.poisoned = false)
      (current : cache.generation = generation) (sound : entries.Sound good)
      (ttl : entries.ttl = cache.entries.ttl) :
      Stored cache generation good { cache with entries, counters := cache.counters.put }
  | skipped : Stored cache generation good cache
  | reset (poisoned : cache.poisoned = true) : Stored cache generation good cache.bypass

variable {cache after : Coalescing K V} {good : Entry K V → Prop}

namespace Begun

variable {key : K} {now : Instant} {begin : Begin K V}

theorem entries_sound (begun : Begun cache key now good after begin)
    (sound : cache.entries.Sound good) : after.entries.Sound good := by
  cases begun with
  | hit _ sound' | joined _ sound' | opened _ sound' => exact sound'
  | bypassed => exact sound.clear good

theorem generation_le (begun : Begun cache key now good after begin) :
    cache.generation ≤ after.generation := by
  cases begun with
  | hit | joined | opened => exact Nat.le_refl _
  | bypassed => exact Nat.le_succ _

theorem ttl_eq (begun : Begun cache key now good after begin) :
    after.entries.ttl = cache.entries.ttl := by
  cases begun with
  | hit _ _ _ _ _ ttl | joined _ _ _ ttl | opened _ _ _ _ ttl => exact ttl
  | bypassed => rfl

end Begun

namespace Stored

variable {generation : Nat}

theorem entries_sound (stored : Stored cache generation good after)
    (sound : cache.entries.Sound good) : after.entries.Sound good := by
  cases stored with
  | kept _ _ sound' _ => exact sound'
  | skipped => exact sound
  | reset => exact sound.clear good

theorem generation_le (stored : Stored cache generation good after) :
    cache.generation ≤ after.generation := by
  cases stored with
  | kept | skipped => exact Nat.le_refl _
  | reset => exact Nat.le_succ _

theorem waiters?_eq (stored : Stored cache generation good after) :
    after.waiters? = cache.waiters? := by
  cases stored <;> rfl

theorem ttl_eq (stored : Stored cache generation good after) :
    after.entries.ttl = cache.entries.ttl := by
  cases stored with
  | kept _ _ _ ttl => exact ttl
  | skipped | reset => rfl

theorem nextTicket_eq (stored : Stored cache generation good after) :
    after.nextTicket = cache.nextTicket := by
  cases stored <;> rfl

end Stored

variable [EquivBEq K] [LawfulHashable K]

theorem lookup_spec (sound : cache.entries.Sound good) (working : cache.poisoned = false) (key : K)
    (now : Instant) :
    ∃ entries found, cache.lookup key now = .ok ({ cache with entries }, found) ∧
      entries.Sound good ∧ entries.ttl = cache.entries.ttl ∧
      (∀ value, found = some value →
        ∃ entry, good entry ∧ entry.key == key ∧ entry.value = value ∧
          Instant.outlives cache.entries.ttl entry.inserted now = false) ∧
      (found = none → (entries.Sound fun entry => good entry ∧ (entry.key == key) = false) ∧
        entries.get key now = .ok (entries, none)) := by
  obtain ⟨entries, found, gets, sound', ttl, hits, misses⟩ := sound.get key now
  refine ⟨entries, found, ?_, sound', ttl, hits, misses⟩
  rw [lookup, if_neg (by simp [working]), gets]
  rfl

theorem begin_begun (sound : cache.entries.Sound good) (key : K) (now : Instant) :
    ∃ after begun, cache.begin (E := E) key now = (after, begun, []) ∧
      Begun cache key now good after begun := by
  by_cases poisoned : cache.poisoned = true
  · refine ⟨cache.bypass, .pending .direct, ?_, .bypassed poisoned⟩
    rw [begin, lookup, if_pos poisoned]
  · have working : cache.poisoned = false := Bool.not_eq_true _ ▸ poisoned
    obtain ⟨entries, found, looks, sound', ttl, hits, misses⟩ := lookup_spec sound working key now
    cases found with
    | some value =>
        obtain ⟨entry, good, equal, rfl, fresh⟩ := hits value rfl
        exact ⟨_, _, by rw [begin, looks], .hit working sound' good equal fresh ttl⟩
    | none =>
        obtain ⟨missed', again⟩ := misses rfl
        let missed : Coalescing K V := { cache with entries, counters := cache.counters.miss }
        cases flight : cache.waiters? key with
        | some tickets =>
            have joins : missed.waiters? key = some tickets := flight
            refine ⟨_, _, ?_, .joined working sound' (by rw [flight]; rfl) ttl⟩
            rw [begin, looks]
            simp only [join, missed, joins]
        | none =>
            let opened : Coalescing K V := { missed with flights := cache.flights ++ [(key, [])] }
            have opens : missed.join key = (opened, none) := by
              have unled : missed.waiters? key = none := flight
              rw [join, unled]
            -- The key has just been missed, so the second look finds nothing either.
            have looksAgain : opened.lookup key now = .ok (opened, none) := by
              rw [lookup, if_neg poisoned]
              change (entries.get key now >>= fun found => _) = _
              rw [again]
              rfl
            refine ⟨opened, _, ?_, .opened working sound' flight missed' ttl⟩
            rw [begin, looks]
            dsimp only
            rw [opens]
            change opened.lead key now = _
            rw [lead, looksAgain]

theorem store_stored (sound : cache.entries.Sound good) {key : K} {value : V} {generation : Nat}
    {now : Instant}
    (safe : cache.poisoned = false → cache.generation = generation →
      ∀ stored, stored == key → good ⟨stored, value, now⟩) :
    Stored cache generation good (cache.store key value generation now) := by
  rw [store]
  by_cases poisoned : cache.poisoned = true
  · rw [if_pos poisoned]
    exact .reset poisoned
  · have working : cache.poisoned = false := Bool.not_eq_true _ ▸ poisoned
    rw [if_neg poisoned]
    by_cases current : cache.generation = generation
    · obtain ⟨entries, inserts, sound', ttl⟩ := sound.insert (safe working current)
      rw [if_neg (not_not_intro current), inserts]
      exact .kept working current sound' ttl
    · rw [if_pos current]
      exact .skipped

/-- The end of a call keeps the entries good if what it would store is. -/
theorem finish_stored (sound : cache.entries.Sound good) (call : Call K) (result : Except E V)
    (now : Instant)
    (safe : ∀ lead key generation value, call = .leading lead key generation →
      result = .ok value → cache.generation = generation →
      ∀ stored, stored == key → good ⟨stored, value, now⟩) :
    (cache.finish call result now).1.entries.Sound good ∧
      cache.generation ≤ (cache.finish call result now).1.generation := by
  cases call with
  | waiting => exact ⟨sound, Nat.le_refl _⟩
  | direct => exact ⟨sound, Nat.le_refl _⟩
  | leading lead key generation =>
      cases result with
      | error error =>
          obtain ⟨entries, same⟩ := complete_entries cache lead (.error error : Except E V)
          change ((cache.complete lead _).1.entries).Sound good ∧
            _ ≤ (cache.complete lead _).1.generation
          rw [entries, same]
          exact ⟨sound, Nat.le_refl _⟩
      | ok value =>
          have stored := store_stored sound fun _ => safe lead key generation value rfl rfl
          obtain ⟨entries, same⟩ := complete_entries (cache.store key value generation now) lead
            (.ok value : Except E V)
          change ((Coalescing.complete _ lead _).1.entries).Sound good ∧
            _ ≤ (Coalescing.complete _ lead _).1.generation
          rw [entries, same]
          exact ⟨stored.entries_sound sound, stored.generation_le⟩

end Roster.Cache.Coalescing
