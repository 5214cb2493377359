import Roster.Proofs.Cache.Failures

namespace Roster.Cache

/-! What the counters of a cache say. Every call is counted once, by its look-up. Every value that a
leader has loaded ends in one of three ways: it is put, it meets a failure, or it is dropped because
the entries were emptied while it was being loaded. -/

namespace Coalescing

variable {K V : Type} [BEq K] [Hashable K]

/-- What becomes of the write-back of a value that was loaded in a generation. -/
inductive Written (cache : Coalescing K V) (key : K) (value : V) (generation : Nat)
    (now : Instant) : Coalescing K V → Prop
  | failed (poisoned : cache.poisoned = true) : Written cache key value generation now cache.bypass
  | outdated (working : cache.poisoned = false) (renewed : cache.generation ≠ generation) :
      Written cache key value generation now cache
  | put {entries : Lru K V} (working : cache.poisoned = false)
      (current : cache.generation = generation)
      (inserts : cache.entries.insert key value now = .ok entries) :
      Written cache key value generation now
        { cache with entries, counters := cache.counters.put }

theorem store_written [EquivBEq K] [LawfulHashable K] {cache : Coalescing K V}
    {good : Entry K V → Prop} (sound : cache.entries.Sound good) (key : K) (value : V)
    (generation : Nat) (now : Instant) :
    cache.Written key value generation now (cache.store key value generation now) := by
  cases poisoned : cache.poisoned with
  | true =>
      rw [store_of_poisoned poisoned]
      exact .failed poisoned
  | false =>
      by_cases current : cache.generation = generation
      · have anything : cache.entries.Sound fun _ => True := sound.mono fun _ _ => trivial
        have safe (stored : K) (_ : stored == key) : (fun _ => True) (Entry.mk stored value now) :=
          trivial
        obtain ⟨entries, inserts, -⟩ := anything.insert safe
        rw [store_of_insert poisoned current inserts]
        exact .put poisoned current inserts
      · rw [store_of_outdated poisoned current]
        exact .outdated poisoned current

end Coalescing

/-- At how many places of a list something holds of what stands before and of what stands there. -/
def occasions {α : Type} (test : List α → α → Bool) (items : List α) : Nat :=
  (List.range items.length).countP fun place => items[place]?.any (test (items.take place))

theorem occasions_concat {α : Type} (test : List α → α → Bool) (items : List α) (item : α) :
    occasions test (items ++ [item]) = occasions test items + (test items item).toNat := by
  have earlier : (List.range items.length).countP
      (fun place => (items ++ [item])[place]?.any (test ((items ++ [item]).take place))) =
      occasions test items := by
    apply List.countP_congr
    intro place member
    have inside : place < items.length := List.mem_range.mp member
    rw [List.getElem?_append_left inside, List.take_append_of_le_length (Nat.le_of_lt inside)]
  rw [occasions, List.length_append, List.length_singleton, List.range_succ, List.countP_append,
    earlier, List.countP_singleton, List.getElem?_concat_length, List.take_left, Option.any_some]
  cases test items item <;> rfl

namespace Counters

def total (counters : Counters) : Nat :=
  counters.hits + counters.misses + counters.puts + counters.errors

variable (counters : Counters)

@[simp]
theorem total_hit : counters.hit.total = counters.total + 1 := by
  simp only [total, hit]
  omega

@[simp]
theorem total_miss : counters.miss.total = counters.total + 1 := by
  simp only [total, miss]
  omega

@[simp]
theorem total_put : counters.put.total = counters.total + 1 := by
  simp only [total, put]
  omega

@[simp]
theorem total_error : counters.error.total = counters.total + 1 := rfl

end Counters

variable {K V E : Type}

def Event.isCall : Event K V E → Bool
  | .begin _ _ => true
  | _ => false

def Stage.isReturned : Stage K V E → Bool
  | .returned _ => true
  | _ => false

namespace Traffic

variable [BEq K] [Hashable K]

/-- What a leader whose loader ends with an event has loaded, and under which key. -/
def brings? (traffic : Traffic K V E) : Event K V E → Option (K × Loaded V)
  | .finish id (.ok value) _ =>
    match traffic.callers[id]?.map Caller.stage with
    | some (.loading (.leading _ key _) load) => some (key, ⟨value, load⟩)
    | _ => none
  | _ => none

/-- How often the entries have been emptied in the course of a run. -/
def emptied (origin : Traffic K V E) (events : List (Event K V E)) : Nat :=
  occasions
    (fun before event =>
      (origin.run before).cache.lock.empties ((origin.run before).use event))
    events

/-- Whether the entries have been emptied since a load was started. -/
def outdated (origin : Traffic K V E) (events : List (Event K V E)) (load : Load) : Bool :=
  origin.emptied (events.take load.started) != origin.emptied events

def loads (origin : Traffic K V E) (events : List (Event K V E)) : Nat :=
  occasions (fun before event => ((origin.run before).brings? event).isSome) events

/-- How many values were loaded by leaders and not stored because the entries had been emptied in
between. -/
def dropped (origin : Traffic K V E) (events : List (Event K V E)) : Nat :=
  occasions
    (fun before event =>
      ((origin.run before).brings? event).any fun brought =>
        !(origin.run before).cache.poisoned && origin.outdated before brought.2.load)
    events

/-- What the event that comes next after a run adds to the counters. -/
structure Accounts (origin : Traffic K V E) (events : List (Event K V E)) (event : Event K V E) :
    Prop where
  call : ∀ key now, event = .begin key now →
    ((origin.run events).step event).cache.counters =
      if (origin.run events).cache.poisoned then (origin.run events).cache.counters.error
      else if ((origin.run events).step event).callers[(origin.run events).callers.length]?.any
          (·.stage.isReturned) then
        (origin.run events).cache.counters.hit
      else (origin.run events).cache.counters.miss
  load : ∀ key value, (origin.run events).brings? event = some (key, value) →
    ((origin.run events).step event).cache.counters =
      if (origin.run events).cache.poisoned then (origin.run events).cache.counters.error
      else if origin.outdated events value.load then (origin.run events).cache.counters
      else (origin.run events).cache.counters.put
  rest : event.isCall = false → (origin.run events).brings? event = none →
    ((origin.run events).step event).cache.counters = (origin.run events).cache.counters

theorem Accounts.total {origin : Traffic K V E} {events : List (Event K V E)}
    {event : Event K V E} (accounts : origin.Accounts events event) :
    ((origin.run events).step event).cache.counters.total +
        (((origin.run events).brings? event).any fun brought =>
          !(origin.run events).cache.poisoned && origin.outdated events brought.2.load).toNat =
      (origin.run events).cache.counters.total + (if event.isCall then 1 else 0) +
        ((origin.run events).brings? event).isSome.toNat := by
  -- The event is a call, brings a value, or leaves the counters as they are.
  cases called : event.isCall with
  | true =>
      cases event with
      | begin key now =>
          have silent : (origin.run events).brings? (.begin key now) = none := rfl
          rw [silent, accounts.call key now rfl]
          split
          · simp
          · split <;> simp
      | _ => cases called
  | false =>
      cases brings : (origin.run events).brings? event with
      | none =>
          rw [accounts.rest called brings]
          simp
      | some brought =>
          rw [accounts.load brought.1 brought.2 brings]
          cases poisoned : (origin.run events).cache.poisoned with
          | true => simp
          | false => cases renewed : origin.outdated events brought.2.load <;> simp [renewed]

variable [EquivBEq K] [LawfulHashable K] {traffic : Traffic K V E} {event : Event K V E}
  {good : Entry K (Loaded V) → Prop}

omit [EquivBEq K] [LawfulHashable K] in
theorem brings?_eq_some {key : K} {loaded : Loaded V} :
    traffic.brings? event = some (key, loaded) ↔ ∃ id now lead generation,
      event = .finish id (.ok loaded.content) now ∧
      traffic.callers[id]?.map Caller.stage =
        some (.loading (.leading lead key generation) loaded.load) := by
  constructor
  · intro brings
    unfold brings? at brings
    split at brings
    · rename_i id value now
      split at brings
      · rename_i lead key generation load stands
        cases brings
        exact ⟨id, now, lead, generation, rfl, stands⟩
      · cases brings
    · cases brings
  · rintro ⟨id, now, lead, generation, rfl, stands⟩
    rw [brings?, stands]

/-- Each time the entries are emptied a new generation begins, and at no other time. -/
theorem generation_step (sound : traffic.cache.entries.Sound good) (event : Event K V E) :
    (traffic.step event).cache.generation =
      traffic.cache.generation + (traffic.cache.lock.empties (traffic.use event)).toNat := by
  cases event with
  | clear | poison => rfl
  | resume id => rw [resume_rest]; rfl
  | stop id =>
      obtain ⟨flights, rest⟩ := traffic.stop_rest id
      rw [rest]
      rfl
  | begin key now =>
      obtain ⟨cache, begin, begins, begun⟩ :=
        Coalescing.begin_begun (E := Loaded E) sound key now
      rw [step, begins]
      cases begun with
      | hit working | joined working | opened working =>
          simp [enter, use, Lock.empties, Coalescing.lock, working]
      | bypassed poisoned =>
          simp [enter, use, Lock.empties, Coalescing.lock, poisoned, Coalescing.bypass,
            Coalescing.clear]
  | finish id result now =>
      rcases traffic.finish_cases id result now with
        ⟨lead, key, generation, load, value, flights, -, -, uses, rest⟩ | ⟨uses, flights, rest⟩
      · have written := Coalescing.store_written sound key (⟨value, load⟩ : Loaded V) generation now
        rw [rest, uses]
        generalize traffic.cache.store key ⟨value, load⟩ generation now = cache at written
        cases written with
        | put working | outdated working => simp [Lock.empties, Coalescing.lock, working]
        | failed poisoned =>
            simp [Lock.empties, Coalescing.lock, poisoned, Coalescing.bypass, Coalescing.clear]
      · rw [rest, uses]
        rfl

section Runs

variable (name : String) (capacity : Nat) (ttl : Span) (events : List (Event K V E))

theorem generation_run :
    ((start name capacity ttl).run events).cache.generation =
      (start name capacity ttl).emptied events := by
  have origin : (start name capacity ttl : Traffic K V E).Orderly := .start name capacity ttl
  induction events using List.reverseRecOn with
  | nil => rfl
  | append_singleton events event ih =>
      rw [run_append]
      change (((start name capacity ttl).run events).step event).cache.generation = _
      rw [generation_step (origin.run events).steady.entries_sound, ih, emptied, emptied,
        occasions_concat]

variable {events}

theorem generation_of_leading {id : Nat} {caller : Caller K V E} {lead : Coalescing.Lead K}
    {key : K} {generation : Nat} {load : Load}
    (found : ((start name capacity ttl).run events).callers[id]? = some caller)
    (leading : caller.stage = .loading (.leading lead key generation) load) :
    load.started ≤ events.length ∧
      generation =
        (start name capacity ttl : Traffic K V E).emptied (events.take load.started) := by
  have origin : (start name capacity ttl : Traffic K V E).Orderly := .start name capacity ttl
  induction events using List.reverseRecOn generalizing caller with
  | nil => cases found
  | append_singleton events event ih =>
      -- A generation is noted when a load is opened, and stays with the load.
      have orderly := origin.run events
      have moment : ((start name capacity ttl).run events).moment = 0 + events.length :=
        origin.moment_run events
      rw [run_append] at found
      rw [List.length_append, List.length_singleton]
      rcases (orderly.steady.moved event).caller_cases orderly.ticketed found with
        ⟨before, known, -, -, -, went⟩ | ⟨-, key', now, cache, begin, -, begun, rfl⟩
      · generalize caller.stage = stage at went leading
        cases went with
        | stayed =>
            obtain ⟨within, same⟩ := ih known leading
            rw [List.take_append_of_le_length within]
            exact ⟨Nat.le_succ_of_le within, same⟩
        | turned turn => cases (turn.direct leading).1
        | ended _ result? => cases result? <;> cases leading
        | woken => cases leading
      · cases begun with
        | opened =>
            cases leading
            change ((start name capacity ttl).run events).moment ≤ _ ∧
              ((start name capacity ttl).run events).cache.generation =
                emptied _ ((events ++ [event]).take ((start name capacity ttl).run events).moment)
            rw [moment, Nat.zero_add, List.take_left]
            exact ⟨Nat.le_succ _, generation_run name capacity ttl events⟩
        | _ => cases leading

/-- What a leader brings is written back as belonging to the generation in which its load was
started. -/
theorem brought_written {key : K} {loaded : Loaded V}
    (brings : ((start name capacity ttl).run events).brings? event = some (key, loaded)) :
    ∃ now stored flights,
      ((start name capacity ttl).run events).cache.Written key loaded
        ((start name capacity ttl : Traffic K V E).emptied (events.take loaded.load.started)) now
        stored ∧
      (((start name capacity ttl).run events).step event).cache = { stored with flights } := by
  have origin : (start name capacity ttl : Traffic K V E).Orderly := .start name capacity ttl
  obtain ⟨id, now, lead, generation, rfl, stands⟩ := brings?_eq_some.mp brings
  obtain ⟨caller, found, leading⟩ := Option.map_eq_some_iff.mp stands
  obtain ⟨-, since⟩ := generation_of_leading name capacity ttl found leading
  have writes : ∃ flights, (((start name capacity ttl).run events).step
      (.finish id (.ok loaded.content) now)).cache =
        { ((start name capacity ttl).run events).cache.store key loaded generation now with
          flights } := by
    rw [step, stands]
    exact Coalescing.complete_rest _ lead (.ok loaded : Answer V E)
  obtain ⟨flights, rest⟩ := writes
  rw [← since]
  exact ⟨now, _, flights,
    Coalescing.store_written (origin.run events).steady.entries_sound key loaded generation now,
    rest⟩

theorem counters_brought {key : K} {loaded : Loaded V}
    (brings : ((start name capacity ttl).run events).brings? event = some (key, loaded)) :
    (((start name capacity ttl).run events).step event).cache.counters =
      if ((start name capacity ttl).run events).cache.poisoned then
        ((start name capacity ttl).run events).cache.counters.error
      else if (start name capacity ttl).outdated events loaded.load then
        ((start name capacity ttl).run events).cache.counters
      else ((start name capacity ttl).run events).cache.counters.put := by
  have generation : ((start name capacity ttl).run events).cache.generation = _ :=
    generation_run name capacity ttl events
  obtain ⟨now, stored, flights, written, rest⟩ := brought_written name capacity ttl brings
  rw [rest]
  cases written with
  | failed poisoned => simp [poisoned, Coalescing.bypass, Coalescing.clear]
  | outdated working renewed =>
      rw [generation] at renewed
      simp [working, outdated, renewed.symm]
  | put working current =>
      rw [generation] at current
      simp [working, outdated, current]

variable (events)

theorem accounts (event : Event K V E) : (start name capacity ttl).Accounts events event where
  call := by
    rintro key now rfl
    have origin : (start name capacity ttl : Traffic K V E).Orderly := .start name capacity ttl
    obtain ⟨cache, begin, begins, begun⟩ :=
      Coalescing.begin_begun (E := Loaded E) (origin.run events).steady.entries_sound key now
    rw [step, begins]
    dsimp only
    rw [callers_enter, if_pos rfl]
    cases begun with
    | hit working | joined working | opened working =>
        simp [enter, newcomer, working, Stage.isReturned]
    | bypassed poisoned => simp [enter, poisoned, Coalescing.bypass, Coalescing.clear]
  load key value brings := counters_brought name capacity ttl brings
  rest := by
    intro other brings
    cases event with
    | begin => cases other
    | clear | poison => rfl
    | resume id => rw [resume_rest]
    | stop id =>
        obtain ⟨flights, rest⟩ := ((start name capacity ttl).run events).stop_rest id
        rw [rest]
    | finish id result now =>
        rcases ((start name capacity ttl).run events).finish_cases id result now with
          ⟨lead, key, generation, load, value, flights, rfl, stands, -, -⟩ | ⟨-, flights, rest⟩
        · have brought : ((start name capacity ttl).run events).brings?
              (.finish id (.ok value) now) = some (key, ⟨value, load⟩) :=
            brings?_eq_some.mpr ⟨id, now, lead, generation, rfl, stands⟩
          cases brought.symm.trans brings
        · rw [rest]

theorem total_run :
    ((start name capacity ttl).run events).cache.counters.total +
        (start name capacity ttl : Traffic K V E).dropped events =
      events.countP Event.isCall + (start name capacity ttl : Traffic K V E).loads events := by
  induction events using List.reverseRecOn with
  | nil => rfl
  | append_singleton events event ih =>
      have total := (accounts name capacity ttl events event).total
      rw [run_append, dropped, loads, occasions_concat, occasions_concat, List.countP_append,
        List.countP_singleton]
      change (((start name capacity ttl).run events).step event).cache.counters.total +
        (dropped _ events + _) = _ + (loads _ events + _)
      omega

/-- Each call counts once, as a hit, a miss or a failure, when it looks for its value. Each value
that a leader loads counts once, as put or as a failure, unless it is dropped because the entries
were emptied while it was being loaded. Nothing else counts. -/
theorem run_accounts :
    (∀ event, (start name capacity ttl : Traffic K V E).Accounts events event) ∧
      let stats := ((start name capacity ttl : Traffic K V E).run events).cache.stats
      stats.hits + stats.misses + stats.puts + stats.errors +
          (start name capacity ttl : Traffic K V E).dropped events =
        events.countP Event.isCall + (start name capacity ttl : Traffic K V E).loads events :=
  ⟨accounts name capacity ttl events, total_run name capacity ttl events⟩

end Runs

/-! A value that is dropped because the entries are cleared while it is being loaded, and a failure. -/

def clearedMidway : List (Event Nat Nat Nat) :=
  [.begin 7 ⟨0⟩, .clear, .finish 0 (.ok 1) ⟨1⟩, .poison, .begin 7 ⟨2⟩]

theorem run_accounts_clearedMidway :
    let origin : Traffic Nat Nat Nat := start "page" 16 .zero
    let stats := (origin.run clearedMidway).cache.stats
    stats.hits = 0 ∧ stats.misses = 1 ∧ stats.puts = 0 ∧ stats.errors = 1 ∧
      clearedMidway.countP Event.isCall = 2 ∧ origin.loads clearedMidway = 1 ∧
      origin.dropped clearedMidway = 1 := by
  intro origin stats
  have begun : origin.step (.begin 7 ⟨0⟩) = _ := step_begin_new "page" 16 .zero 7 ⟨0⟩
  have counted : (origin.run clearedMidway).cache.counters = { misses := 1, errors := 1 } := by
    rw [clearedMidway, run, List.foldl_cons, begun]
    rfl
  have brought : (origin.run [.begin 7 ⟨0⟩, .clear]).brings? (.finish 0 (.ok 1) ⟨1⟩) =
      some (7, ⟨1, ⟨0, 0⟩⟩) := by
    rw [run, List.foldl_cons, begun]
    rfl
  have loads : origin.loads clearedMidway = 1 := by
    have split : clearedMidway =
        [.begin 7 ⟨0⟩, .clear] ++ [.finish 0 (.ok 1) ⟨1⟩] ++ [.poison] ++ [.begin 7 ⟨2⟩] := rfl
    rw [Traffic.loads, split, occasions_concat, occasions_concat, occasions_concat, brought]
    rfl
  have calls : clearedMidway.countP Event.isCall = 2 := rfl
  obtain ⟨-, total⟩ := run_accounts "page" 16 .zero clearedMidway
  change (origin.run clearedMidway).cache.counters.total + origin.dropped clearedMidway = _ at total
  rw [counted, calls, loads] at total
  change 2 + _ = _ at total
  refine ⟨congrArg Counters.hits counted, congrArg Counters.misses counted,
    congrArg Counters.puts counted, congrArg Counters.errors counted, calls, loads, ?_⟩
  omega

end Traffic

end Roster.Cache
