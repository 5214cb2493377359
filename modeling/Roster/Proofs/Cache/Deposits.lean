import Roster.Proofs.Cache.Accounting
import Roster.Proofs.Cache.Serving

namespace Roster.Cache

/-! What a cache counts as put. With any room at all, each put leaves the value that it counts under
its key, and no other step leaves a new value there. A cache without room keeps nothing and counts all
the same. -/

variable {K V E : Type} [BEq K] [Hashable K]

namespace Lru

/-- Whether a loaded value lies under its key. -/
def stores (lru : Lru K (Loaded V)) (brought : K × Loaded V) : Bool :=
  (lru.peek? brought.1).any (·.load == brought.2.load)

/-- How a step may count that brings a value, or none, and leaves these entries. -/
inductive Counted (lru : Lru K (Loaded V)) (brought? : Option (K × Loaded V)) (puts : Nat) :
    Nat → Prop
  | put {key : K} {value : Loaded V} (brings : brought? = some (key, value))
      (held : lru.peek? key = some value) : Counted lru brought? puts (puts + 1)
  | rest (absent : brought?.any lru.stores = false) : Counted lru brought? puts puts

variable {lru : Lru K (Loaded V)}

theorem Counted.eq {brought? : Option (K × Loaded V)} {puts later : Nat}
    (counted : lru.Counted brought? puts later) :
    later = puts + (brought?.any lru.stores).toNat := by
  cases counted with
  | put brings held => simp [brings, stores, held]
  | rest absent => simp [absent]

theorem Counted.held {key : K} {value : Loaded V} {puts later : Nat}
    (counted : lru.Counted (some (key, value)) puts later) (more : later ≠ puts) :
    lru.peek? key = some value := by
  cases counted with
  | put brings held =>
      cases brings
      exact held
  | rest => exact absurd rfl more

theorem Counted.of_none {puts : Nat} : lru.Counted none puts puts := .rest rfl

variable [EquivBEq K] {good : Entry K (Loaded V) → Prop}

theorem Sound.stores_eq_false {brought : K × Loaded V}
    (sound : lru.Sound fun entry => entry.value.load ≠ brought.2.load) :
    lru.stores brought = false := by
  rw [stores, Option.any_eq_false]
  intro value found
  obtain ⟨entry, apart, -, rfl⟩ := sound.peek? found
  exact beq_false_of_ne apart

theorem Sound.peek?_insert [LawfulHashable K] (sound : lru.Sound good) (room : lru.capacity ≠ 0)
    {key : K} {value : Loaded V} {now : Instant} {inserted : Lru K (Loaded V)}
    (inserts : lru.insert key value now = .ok inserted) : inserted.peek? key = some value := by
  obtain ⟨recency, refines, -⟩ := sound
  obtain ⟨same, inserts', refines'⟩ := insert_refines refines key value now
  cases inserts.symm.trans inserts'
  obtain ⟨chain, represents⟩ := refines
  obtain ⟨own, found⟩ :=
    Recency.find?_insert (represents.capacity ▸ room) represents.distinct_keys
  rw [peek?_eq refines', found]
  rfl

end Lru

/-! A cache that loads once for all who ask. -/

namespace Coalescing

variable {cache : Coalescing K V} {good : Entry K V → Prop}

theorem entries_join (cache : Coalescing K V) (key : K) :
    (cache.join key).1.entries = cache.entries := by
  rw [join]
  split <;> rfl

theorem poisoned_of_lookup {key : K} {now : Instant} {result : Coalescing K V × Option V}
    (looks : cache.lookup key now = .ok result) : cache.poisoned = false := by
  rw [lookup] at looks
  split at looks
  · cases looks
  · exact Bool.not_eq_true _ ▸ ‹_›

variable [EquivBEq K] [LawfulHashable K]

theorem capacity_lookup (sound : cache.entries.Sound good) {key : K} {now : Instant}
    {after : Coalescing K V} {found : Option V} (looks : cache.lookup key now = .ok (after, found)) :
    after.entries.capacity = cache.entries.capacity := by
  rw [lookup] at looks
  split at looks
  · cases looks
  · obtain ⟨recency, refines, -⟩ := sound
    obtain ⟨entries, gets, refines'⟩ := Lru.get_refines refines key now
    rw [gets] at looks
    cases looks
    rw [← Lru.Sound.capacity_eq refines', Recency.capacity_get, Lru.Sound.capacity_eq refines]

theorem capacity_lead (sound : cache.entries.Sound good) (key : K) (now : Instant) :
    (cache.lead (E := E) key now).1.entries.capacity = cache.entries.capacity := by
  rw [lead]
  cases looks : cache.lookup key now with
  | error => rfl
  | ok result =>
      obtain ⟨after, found⟩ := result
      have capacity := capacity_lookup sound looks
      cases found with
      | none => exact capacity
      | some value =>
          obtain ⟨flights, rest⟩ := after.complete_rest ⟨some key⟩ (.ok value : Except E V)
          dsimp only
          rw [rest]
          exact capacity

theorem capacity_begin (sound : cache.entries.Sound good) (key : K) (now : Instant) :
    (cache.begin (E := E) key now).1.entries.capacity = cache.entries.capacity := by
  rw [begin]
  cases looks : cache.lookup key now with
  | error => rfl
  | ok result =>
      obtain ⟨after, found⟩ := result
      have capacity := capacity_lookup sound looks
      cases found with
      | some value => exact capacity
      | none =>
          have soundAfter : after.entries.Sound good := by
            obtain ⟨entries, found, looks', sound', -⟩ :=
              lookup_spec sound (poisoned_of_lookup looks) key now
            cases looks.symm.trans looks'
            exact sound'
          dsimp only
          cases joins : ({ after with counters := after.counters.miss } : Coalescing K V).join key with
          | mk joined ticket? =>
              have same : joined.entries = after.entries := by
                rw [← entries_join { after with counters := after.counters.miss } key, joins]
              cases ticket? with
              | some ticket => exact same ▸ capacity
              | none => exact (capacity_lead (same ▸ soundAfter) key now).trans (same ▸ capacity)

theorem capacity_store (sound : cache.entries.Sound good) (key : K) (value : V)
    (generation : Nat) (now : Instant) :
    (cache.store key value generation now).entries.capacity = cache.entries.capacity := by
  have written := store_written sound key value generation now
  generalize cache.store key value generation now = stored at written
  cases written with
  | failed | outdated => rfl
  | put working current inserts =>
      obtain ⟨recency, refines, -⟩ := sound
      obtain ⟨entries, inserts', refines'⟩ := Lru.insert_refines refines key value now
      cases inserts.symm.trans inserts'
      dsimp only
      rw [← Lru.Sound.capacity_eq refines', Recency.capacity_insert, Lru.Sound.capacity_eq refines]

end Coalescing

namespace Traffic

/-- Whether an event brings a value that lies under its key afterwards. -/
def deposits (traffic : Traffic K V E) (event : Event K V E) : Bool :=
  (traffic.brings? event).any (traffic.step event).cache.entries.stores

def deposited (origin : Traffic K V E) (events : List (Event K V E)) : Nat :=
  occasions (fun before event => (origin.run before).deposits event) events

/-- A step counts what it leaves under its key, and nothing else. -/
def Counts (traffic : Traffic K V E) (event : Event K V E) : Prop :=
  (traffic.step event).cache.entries.Counted (traffic.brings? event) traffic.cache.stats.puts
    (traffic.step event).cache.stats.puts

variable [EquivBEq K] [LawfulHashable K] {traffic : Traffic K V E} {event : Event K V E}
  {good : Entry K (Loaded V) → Prop}

theorem capacity_step (sound : traffic.cache.entries.Sound good) (event : Event K V E) :
    (traffic.step event).cache.entries.capacity = traffic.cache.entries.capacity := by
  cases event with
  | clear | poison => rfl
  | begin key now => exact Coalescing.capacity_begin sound key now
  | resume id => rw [resume_rest]
  | stop id =>
      obtain ⟨flights, rest⟩ := traffic.stop_rest id
      rw [rest]
  | finish id result now =>
      rcases traffic.finish_cases id result now with
        ⟨lead, key, generation, load, value, flights, -, -, -, rest⟩ | ⟨-, flights, rest⟩
      · rw [rest]
        exact Coalescing.capacity_store sound key ⟨value, load⟩ generation now
      · rw [rest]

theorem Orderly.returned_run (orderly : traffic.Orderly) {id : Nat} {stage : Stage K V E}
    {answer : Answer V E} (stands : traffic.callers[id]?.map Caller.stage = some stage)
    (returned : stage = .returned answer) (events : List (Event K V E)) :
    (traffic.run events).callers[id]?.map Caller.stage = some (.returned answer) := by
  subst returned
  induction events generalizing traffic with
  | nil => exact stands
  | cons event rest ih =>
      obtain ⟨caller, found, returned⟩ := Option.map_eq_some_iff.mp stands
      obtain ⟨next, found', -, went⟩ :=
        (orderly.steady.moved event).caller_after orderly.ticketed found
      exact ih (orderly.step event) (by rw [found', Option.map_some, went.returned returned])

section Runs

variable (name : String) (capacity : Nat) (ttl : Span) (events : List (Event K V E))

theorem capacity_run : ((start name capacity ttl).run events).cache.entries.capacity = capacity := by
  have origin : (start name capacity ttl : Traffic K V E).Orderly := .start name capacity ttl
  induction events using List.reverseRecOn with
  | nil => rfl
  | append_singleton events event ih =>
      rw [run_append]
      exact (capacity_step (origin.run events).steady.entries_sound event).trans ih

/-- What is still being loaded does not lie in the entries. -/
theorem entries_loaded {id : Nat} {caller : Caller K V E} {call : Coalescing.Call K} {load : Load}
    (found : ((start name capacity ttl).run events).callers[id]? = some caller)
    (loading : caller.stage = .loading call load) :
    ((start name capacity ttl).run events).cache.entries.Sound fun entry =>
      entry.value.load ≠ load := by
  have origin : (start name capacity ttl : Traffic K V E).Orderly := .start name capacity ttl
  -- Were it there, its caller would have returned when it was put and would not be loading.
  refine (entries_kept name capacity ttl events).mono fun entry kept same => ?_
  obtain ⟨before, event, since, split, ⟨finishes, leader, generation, known, -, leading, -⟩, -⟩ := kept
  obtain ⟨own, -⟩ := ((Traced.start name capacity ttl).run origin events).loading found loading
  rw [finishes] at split
  have ended := ((origin.run before).landed known leading
    (.finish _ (.ok entry.value.content) entry.inserted)).1
  have returned := ((origin.run before).step _).returned_run ended rfl since
  have whole : (start name capacity ttl).run events =
      (((start name capacity ttl).run before).step
        (.finish entry.value.load.caller (.ok entry.value.content) entry.inserted)).run since := by
    rw [split, run_append]
    rfl
  rw [← whole, same, own, found, Option.map_some, loading] at returned
  cases returned

variable {capacity}

theorem counts (room : capacity ≠ 0) (event : Event K V E) :
    ((start name capacity ttl).run events).Counts event := by
  have origin : (start name capacity ttl : Traffic K V E).Orderly := .start name capacity ttl
  have sound := (origin.run events).steady.entries_sound
  have accounted := accounts name capacity ttl events event
  have silent (none : ((start name capacity ttl).run events).brings? event = none)
      (same : (((start name capacity ttl).run events).step event).cache.stats.puts =
        ((start name capacity ttl).run events).cache.stats.puts) :
      ((start name capacity ttl).run events).Counts event := by
    rw [Counts, none, same]
    exact .of_none
  cases called : event.isCall with
  | true =>
      cases event with
      | begin key now =>
          refine silent rfl ((congrArg Counters.puts (accounted.call key now rfl)).trans ?_)
          split
          · rfl
          · split <;> rfl
      | _ => cases called
  | false =>
      cases brings : ((start name capacity ttl).run events).brings? event with
      | none => exact silent brings (congrArg Counters.puts (accounted.rest called brings))
      | some brought =>
          obtain ⟨now, stored, flights, written, rest⟩ := brought_written name capacity ttl brings
          rw [Counts, brings, rest]
          cases written with
          | failed poisoned => exact .rest (Lru.Sound.stores_eq_false (sound.clear _))
          | outdated working renewed =>
              -- Nothing is written; that the value is not there already follows from who loads it.
              obtain ⟨id, now, lead, generation, -, stands⟩ := brings?_eq_some.mp brings
              obtain ⟨caller, found, leading⟩ := Option.map_eq_some_iff.mp stands
              exact .rest (entries_loaded name capacity ttl events found leading).stores_eq_false
          | put working current inserts =>
              exact .put rfl (sound.peek?_insert (by rwa [capacity_run]) inserts)

theorem puts_run (room : capacity ≠ 0) :
    ((start name capacity ttl).run events).cache.stats.puts =
      (start name capacity ttl : Traffic K V E).deposited events := by
  induction events using List.reverseRecOn with
  | nil => rfl
  | append_singleton events event ih =>
      rw [run_append, deposited, occasions_concat]
      exact (counts name ttl events room event).eq.trans (congrArg (· + _) ih)

end Runs

end Traffic

/-! A cache whose callers fetch for themselves. -/

namespace Memo

def Act.brings? : Act K V → Option (K × V)
  | .keep key value _ => some (key, value)
  | _ => none

theorem counted_after [EquivBEq K] [LawfulHashable K] {memo : Memo K (Loaded V)}
    (sound : memo.entries.Sound fun _ => True) (room : memo.entries.capacity ≠ 0)
    (act : Act K (Loaded V)) :
    (memo.after act).entries.Counted act.brings? memo.stats.puts (memo.after act).stats.puts := by
  cases act with
  | clear | poison | idle => exact .of_none
  | spoil =>
      rw [after, poison]
      split
      · exact .of_none
      · split <;> exact .of_none
  | look key now =>
      rw [after]
      have looked := look_looked sound key now
      generalize memo.look key now = result at looked
      cases looked with
      | hit | missed | reset => exact .of_none
  | keep key value now =>
      rw [after]
      have kept : memo.Kept key value now (fun _ => True) (memo.keep key value now) :=
        keep_kept sound fun _ _ => trivial
      generalize memo.keep key value now = stored at kept
      cases kept with
      | stored working inserts => exact .put rfl (sound.peek?_insert room inserts)
      | reset poisoned => exact .rest (Lru.Sound.stores_eq_false (sound.clear _))

end Memo

namespace Fetchers

def deposits (fetchers : Fetchers K V E) (event : Event K V E) : Bool :=
  (fetchers.act event).brings?.any (fetchers.step event).memo.entries.stores

def deposited (origin : Fetchers K V E) (events : List (Event K V E)) : Nat :=
  occasions (fun before event => (origin.run before).deposits event) events

def Counts (fetchers : Fetchers K V E) (event : Event K V E) : Prop :=
  (fetchers.step event).memo.entries.Counted (fetchers.act event).brings?
    fetchers.memo.stats.puts (fetchers.step event).memo.stats.puts

section Runs

variable [EquivBEq K] [LawfulHashable K] (name : String) {capacity : Nat} (ttl : Span)
  (events : List (Event K V E))

theorem counts (room : capacity ≠ 0) (event : Event K V E) :
    ((start name capacity ttl).run events).Counts event := by
  have origin : (start name capacity ttl : Fetchers K V E).memo.entries.Sound fun _ => True :=
    start_sound name capacity ttl
  obtain ⟨sound, -, capacity_eq⟩ :=
    Memo.through_sound origin ((start name capacity ttl : Fetchers K V E).acts events)
  rw [← memo_run] at sound capacity_eq
  rw [Counts, memo_step]
  exact Memo.counted_after sound (capacity_eq ▸ room) _

theorem puts_run (room : capacity ≠ 0) :
    ((start name capacity ttl).run events).memo.stats.puts =
      (start name capacity ttl : Fetchers K V E).deposited events := by
  induction events using List.reverseRecOn with
  | nil => rfl
  | append_singleton events event ih =>
      rw [run_append, deposited, occasions_concat]
      exact (counts name ttl events room event).eq.trans (congrArg (· + _) ih)

end Runs

end Fetchers

section

variable [EquivBEq K] [LawfulHashable K]

/-- With any room, whatever is counted as put lies under its key at that moment, and as much is
counted as has been put there. The moments are those at which callers wait. A value is put under the
lock of the entries and counted after that, so between the two somebody who runs at the same time may
see the value uncounted, or it may be gone again when it is counted. -/
theorem run_deposits (name : String) {capacity : Nat} (room : capacity ≠ 0) (ttl : Span)
    (events : List (Event K V E)) :
    let traffic := Traffic.start name capacity ttl
    let fetchers := Fetchers.start name capacity ttl
    (∀ event, (traffic.run events).Counts event) ∧
      (traffic.run events).cache.stats.puts = traffic.deposited events ∧
      (∀ event, (fetchers.run events).Counts event) ∧
        (fetchers.run events).memo.stats.puts = fetchers.deposited events :=
  ⟨fun event => Traffic.counts name ttl events room event, Traffic.puts_run name ttl events room,
    fun event => Fetchers.counts name ttl events room event, Fetchers.puts_run name ttl events room⟩

end

/-! The first value that is loaded, with room for it and without. -/

theorem Traffic.run_begin_finish (name : String) {capacity : Nat} {inserted : Lru Nat (Loaded Nat)}
    (inserts : (Lru.new capacity .zero).insert 7 ⟨1, ⟨0, 0⟩⟩ ⟨0⟩ = .ok inserted) :
    let traffic : Traffic Nat Nat Nat := (Traffic.start name capacity .zero).run [.begin 7 ⟨0⟩]
    (traffic.step (.finish 0 (.ok 1) ⟨0⟩)).cache.entries = inserted ∧
      traffic.cache.stats.puts = 0 ∧
      (traffic.step (.finish 0 (.ok 1) ⟨0⟩)).cache.stats.puts = 1 ∧
      traffic.brings? (.finish 0 (.ok 1) ⟨0⟩) = some (7, ⟨1, ⟨0, 0⟩⟩) := by
  intro traffic
  have begun : traffic = _ := step_begin_new name capacity .zero 7 ⟨0⟩
  let missed : Coalescing Nat (Loaded Nat) :=
    { Coalescing.new name capacity .zero with flights := [(7, [])], counters := Counters.miss {} }
  have stores : missed.store 7 ⟨1, ⟨0, 0⟩⟩ 0 ⟨0⟩ = _ :=
    Coalescing.store_of_insert rfl rfl inserts
  rw [begun, step]
  simp only [List.getElem?_cons_zero, Option.map_some, Coalescing.finish, Load.mark]
  rw [stores, Coalescing.complete_eq]
  exact ⟨rfl, rfl, rfl, rfl⟩

theorem Fetchers.run_begin_finish (name : String) {capacity : Nat} {inserted : Lru Nat (Loaded Nat)}
    (inserts : (Lru.new capacity .zero).insert 7 ⟨1, ⟨0, 0⟩⟩ ⟨0⟩ = .ok inserted) :
    let fetchers : Fetchers Nat Nat Nat :=
      (Fetchers.start name capacity .zero).run [.begin 7 ⟨0⟩]
    (fetchers.step (.finish 0 (.ok 1) ⟨0⟩)).memo.entries = inserted ∧
      fetchers.memo.stats.puts = 0 ∧
      (fetchers.step (.finish 0 (.ok 1) ⟨0⟩)).memo.stats.puts = 1 ∧
      (fetchers.act (.finish 0 (.ok 1) ⟨0⟩)).brings? = some (7, ⟨1, ⟨0, 0⟩⟩) := by
  intro fetchers
  have begun : fetchers = _ := step_begin_new name capacity .zero 7 ⟨0⟩
  let missed : Memo Nat (Loaded Nat) :=
    { Memo.new name capacity .zero with counters := Counters.miss {} }
  have usable : ¬missed.poisoned = true := Bool.false_ne_true
  have inserts : missed.entries.insert 7 ⟨1, ⟨0, 0⟩⟩ ⟨0⟩ = .ok inserted := inserts
  have keeps : missed.keep 7 ⟨1, ⟨0, 0⟩⟩ ⟨0⟩ =
      { missed with entries := inserted, counters := missed.counters.put } := by
    rw [Memo.keep, Memo.withEntries, if_neg usable, inserts]
  rw [begun, memo_step]
  change (missed.keep 7 ⟨1, ⟨0, 0⟩⟩ ⟨0⟩).entries = _ ∧ _ ∧ (missed.keep 7 _ ⟨0⟩).stats.puts = _ ∧ _
  rw [keeps]
  exact ⟨rfl, rfl, rfl, rfl⟩

theorem run_deposits_first :
    let events : List (Event Nat Nat Nat) := [.begin 7 ⟨0⟩]
    let stored := ((Traffic.start "page" 16 .zero).run events).step (.finish 0 (.ok 1) ⟨0⟩)
    let kept := ((Fetchers.start "page" 16 .zero).run events).step (.finish 0 (.ok 1) ⟨0⟩)
    16 ≠ 0 ∧ stored.cache.stats.puts = 1 ∧ stored.cache.entries.peek? 7 = some ⟨1, ⟨0, 0⟩⟩ ∧
      kept.memo.stats.puts = 1 ∧ kept.memo.entries.peek? 7 = some ⟨1, ⟨0, 0⟩⟩ := by
  intro events stored kept
  have room : 16 ≠ 0 := by decide
  obtain ⟨counts, -, counts', -⟩ := run_deposits "page" room .zero events
  obtain ⟨inserted, inserts, -⟩ :=
    Lru.insert_refines (Lru.new_refines 16 .zero) 7 (⟨1, ⟨0, 0⟩⟩ : Loaded Nat) ⟨0⟩
  obtain ⟨-, before, after, brings⟩ := Traffic.run_begin_finish "page" inserts
  obtain ⟨-, before', after', brings'⟩ := Fetchers.run_begin_finish "page" inserts
  have counted := counts (.finish 0 (.ok 1) ⟨0⟩)
  have counted' := counts' (.finish 0 (.ok 1) ⟨0⟩)
  rw [Traffic.Counts, brings, before, after] at counted
  rw [Fetchers.Counts, brings', before', after'] at counted'
  exact ⟨room, after, counted.held (by decide), after', counted'.held (by decide)⟩

theorem run_deposits_roomless :
    let events : List (Event Nat Nat Nat) := [.begin 7 ⟨0⟩]
    ¬((Traffic.start "page" 0 .zero).run events).Counts (.finish 0 (.ok 1) ⟨0⟩) ∧
      ¬((Fetchers.start "response" 0 .zero).run events).Counts (.finish 0 (.ok 1) ⟨0⟩) := by
  intro events
  have inserts : (Lru.new 0 .zero : Lru Nat (Loaded Nat)).insert 7 ⟨1, ⟨0, 0⟩⟩ ⟨0⟩ =
      .ok (Lru.new 0 .zero) := if_pos rfl
  have empty : (Lru.new 0 .zero : Lru Nat (Loaded Nat)).peek? 7 = none := by
    simp [Lru.peek?, Lru.new]
  refine ⟨fun counted => ?_, fun counted => ?_⟩
  · obtain ⟨entries, before, after, brings⟩ := Traffic.run_begin_finish "page" inserts
    rw [Traffic.Counts, brings, before, after, entries] at counted
    cases empty.symm.trans (counted.held (by decide))
  · obtain ⟨entries, before, after, brings⟩ := Fetchers.run_begin_finish "response" inserts
    rw [Fetchers.Counts, brings, before, after, entries] at counted
    cases empty.symm.trans (counted.held (by decide))

end Roster.Cache
