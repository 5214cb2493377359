import Roster.Proofs.Cache.Singleflight
import Roster.Proofs.Cache.Sources

namespace Roster.Cache

/-! Failures stay inside a cache. Whoever leaves the lock of the entries poisoned harms nobody else:
the next who takes the lock, to look something up, to write something back, or to clear the cache,
empties the entries and makes it usable again. -/

/-- What an event wants the lock of the entries for. -/
inductive Use where
  | lookUp
  | writeBack
  | clear
  | poison
  | none

/-- Whether the lock is usable after it has been taken like this. -/
def Use.heals : Use → Bool
  | lookUp => true
  | writeBack => true
  | clear => true
  | poison => false
  | none => false

structure Lock where
  poisoned : Bool
  /-- The failures that have been counted. -/
  errors : Nat

/-- A failure is counted by whoever meets it when looking something up or writing something back. -/
def Lock.after (lock : Lock) : Use → Lock
  | .lookUp => if lock.poisoned then ⟨false, lock.errors + 1⟩ else lock
  | .writeBack => if lock.poisoned then ⟨false, lock.errors + 1⟩ else lock
  | .clear => { lock with poisoned := false }
  | .poison => { lock with poisoned := true }
  | .none => lock

/-- Whether this use of a lock empties the entries: a clear does so always, a look-up or a write-back
if it finds the lock poisoned. -/
def Lock.empties (lock : Lock) : Use → Bool
  | .lookUp => lock.poisoned
  | .writeBack => lock.poisoned
  | .clear => true
  | .poison => false
  | .none => false

theorem Lock.after_of_not_heals {lock : Lock} {use : Use} (poisoned : lock.poisoned = true)
    (fails : use.heals = false) : lock.after use = lock := by
  obtain ⟨_, errors⟩ := lock
  cases poisoned
  cases use <;> first | rfl | cases fails

variable {K V E : Type} [BEq K] [Hashable K]

namespace Lru

/-- The entry under a key has this value and was stored at this instant. -/
def Holds (lru : Lru K V) (key : K) (value : V) (stored : Instant) : Prop :=
  ∃ slot node, lru.index[key]? = some slot ∧ lru.node? slot = some node ∧ node.value = value ∧
    node.inserted = stored

theorem Sound.holds {lru : Lru K V} {good : Entry K V → Prop} (sound : lru.Sound good) :
    lru.Sound fun entry => ∀ key, entry.key == key → lru.Holds key entry.value entry.inserted := by
  obtain ⟨recency, ⟨chain, represents⟩, -⟩ := sound
  refine ⟨recency, ⟨chain, represents⟩, fun entry member key equal => ?_⟩
  rw [represents.entries] at member
  obtain ⟨⟨slot, _⟩, inChain, rfl⟩ := List.mem_map.mp member
  obtain ⟨left, right, rfl⟩ := List.append_of_mem inChain
  have occupied := (linked_append.mp represents.threaded.linked).2.1
  have tagged := List.mem_map_of_mem (f := fun link : Nat × Entry K V => (link.1, link.2.key)) inChain
  exact ⟨slot, _, (represents.indexed.index key slot).mpr ⟨_, tagged, equal⟩, occupied, rfl, rfl⟩

end Lru

/-! A cache that loads once for all who ask. -/

namespace Coalescing

variable {cache : Coalescing K V}

def lock (cache : Coalescing K V) : Lock := ⟨cache.poisoned, cache.stats.errors⟩

/-- The end of a flight changes nothing but the flights. -/
theorem complete_rest (cache : Coalescing K V) (lead : Lead K) (result : Except E V) :
    ∃ flights, (cache.complete lead result).1 = { cache with flights } := by
  obtain ⟨key?⟩ := lead
  cases key? <;> exact ⟨_, rfl⟩

theorem abandon_rest (cache : Coalescing K V) (call : Call K) :
    ∃ flights, (cache.abandon (E := E) call).1 = { cache with flights } := by
  cases call with
  | leading lead =>
      obtain ⟨key?⟩ := lead
      cases key? <;> exact ⟨_, rfl⟩
  | waiting | direct => exact ⟨_, rfl⟩

theorem begin_of_poisoned (poisoned : cache.poisoned = true) (key : K) (now : Instant) :
    cache.begin (E := E) key now = (cache.bypass, .pending .direct, []) := by
  rw [begin, lookup, if_pos poisoned]

variable [EquivBEq K] [LawfulHashable K] {good : Entry K V → Prop}

theorem lock_begin (sound : cache.entries.Sound good) (key : K) (now : Instant) :
    (cache.begin (E := E) key now).1.lock = cache.lock.after .lookUp := by
  obtain ⟨after, begun, begins, cases⟩ := begin_begun (E := E) sound key now
  rw [begins]
  cases cases with
  | hit working | joined working | opened working =>
      simp [lock, Lock.after, working, stats, Counters.hit, Counters.miss]
  | bypassed poisoned => simp [lock, Lock.after, poisoned, bypass, clear, stats, Counters.error]

theorem lock_store (sound : cache.entries.Sound good) (key : K) (value : V) (generation : Nat)
    (now : Instant) :
    (cache.store key value generation now).lock = cache.lock.after .writeBack := by
  by_cases poisoned : cache.poisoned = true
  · rw [store_of_poisoned poisoned]
    simp [lock, Lock.after, poisoned, bypass, clear, stats, Counters.error]
  · have working : cache.poisoned = false := Bool.not_eq_true _ ▸ poisoned
    have kept : cache.lock.after .writeBack = cache.lock := by simp [lock, Lock.after, working]
    rw [kept]
    by_cases current : cache.generation = generation
    · have anything : cache.entries.Sound fun _ => True := sound.mono fun _ _ => trivial
      have safe (stored : K) (_ : stored == key) : (fun _ => True) (Entry.mk stored value now) :=
        trivial
      obtain ⟨entries, inserts, -⟩ := anything.insert safe
      rw [store, if_neg poisoned, if_neg (not_not_intro current), inserts]
      rfl
    · rw [store_of_outdated working current]

end Coalescing

/-- Runs a loader for itself alone, or has done so. -/
inductive Stage.Alone (load : Load) : Stage K V E → Prop
  | loading : Alone load (.loading .direct load)
  | returned (result : Except E V) : Alone load (.returned (load.mark result))
  | stopped : Alone load .stopped

namespace Traffic

def use (traffic : Traffic K V E) : Event K V E → Use
  | .begin .. => .lookUp
  | .finish id (.ok _) _ =>
    match traffic.callers[id]?.map Caller.stage with
    | some (.loading (.leading ..) _) => .writeBack
    | _ => .none
  | .finish _ (.error _) _ => .none
  | .resume _ => .none
  | .stop _ => .none
  | .clear => .clear
  | .poison => .poison

variable {traffic after : Traffic K V E} {event : Event K V E}
  {good : Entry K (Loaded V) → Prop}

theorem Went.alone {id : Nat} {caller : Caller K V E} {stage : Stage K V E} {load : Load}
    (went : Went traffic event id caller stage) (alone : caller.stage.Alone load) :
    stage.Alone load := by
  cases went with
  | stayed => exact alone
  | turned turn =>
      generalize caller.stage = before at turn alone
      cases alone with
      | loading =>
          cases turn with
          | @loaded _ result => exact .returned result
          | loadStopped => exact .stopped
      | returned | stopped => cases turn
  | ended loading result? =>
      rw [loading] at alone
      cases alone
      cases result? with
      | none => exact .stopped
      | some result => exact .returned result
  | woken waits =>
      rw [waits] at alone
      cases alone

/-- The end of a loader writes back what it has loaded, or leaves all but the flights as it is. -/
theorem finish_cases (traffic : Traffic K V E) (id : Nat) (result : Except E V) (now : Instant) :
    (∃ lead key generation load value flights, result = .ok value ∧
      traffic.callers[id]?.map Caller.stage =
        some (.loading (.leading lead key generation) load) ∧
      traffic.use (.finish id result now) = .writeBack ∧
      (traffic.step (.finish id result now)).cache =
        { traffic.cache.store key ⟨value, load⟩ generation now with flights }) ∨
    traffic.use (.finish id result now) = .none ∧
      ∃ flights, (traffic.step (.finish id result now)).cache =
        { traffic.cache with flights } := by
  cases stands : traffic.callers[id]?.map Caller.stage with
  | none => exact .inr ⟨by cases result <;> simp only [use, stands], _, by rw [step, stands]; rfl⟩
  | some stage =>
      cases stage with
      | loading call load =>
          cases call with
          | leading lead key generation =>
              cases result with
              | ok value =>
                  obtain ⟨flights, rest⟩ := Coalescing.complete_rest
                    (traffic.cache.store key ⟨value, load⟩ generation now) lead
                    (.ok ⟨value, load⟩ : Except (Loaded E) (Loaded V))
                  refine .inl ⟨lead, key, generation, load, value, flights, rfl, rfl,
                    by simp only [use, stands], ?_⟩
                  rw [step, stands]
                  exact rest
              | error error =>
                  obtain ⟨flights, rest⟩ := Coalescing.complete_rest traffic.cache lead
                    (.error ⟨error, load⟩ : Except (Loaded E) (Loaded V))
                  refine .inr ⟨rfl, flights, ?_⟩
                  rw [step, stands]
                  exact rest
          | waiting | direct =>
              exact .inr ⟨by cases result <;> simp only [use, stands], _, by rw [step, stands]; rfl⟩
      | _ => exact .inr ⟨by cases result <;> simp only [use, stands], _, by rw [step, stands]; rfl⟩

theorem stop_rest (traffic : Traffic K V E) (id : Nat) :
    ∃ flights, (traffic.step (.stop id)).cache = { traffic.cache with flights } := by
  rw [step]
  split
  · rename_i call load _
    exact Coalescing.abandon_rest traffic.cache call
  · exact ⟨_, rfl⟩
  · exact ⟨_, rfl⟩
  · exact ⟨_, rfl⟩

theorem resume_rest (traffic : Traffic K V E) (id : Nat) :
    (traffic.step (.resume id)).cache = traffic.cache := by
  rw [step]
  split <;> rfl

section Steps

variable [EquivBEq K] [LawfulHashable K]

/-- Each event does to the lock what its use of it does. -/
theorem lock_step (sound : traffic.cache.entries.Sound good) (event : Event K V E) :
    (traffic.step event).cache.lock = traffic.cache.lock.after (traffic.use event) := by
  cases event with
  | begin key now => exact Coalescing.lock_begin sound key now
  | clear => rfl
  | poison => rfl
  | resume id => rw [resume_rest]; rfl
  | stop id =>
      obtain ⟨flights, rest⟩ := traffic.stop_rest id
      rw [rest]
      rfl
  | finish id result now =>
      rcases traffic.finish_cases id result now with
        ⟨lead, key, generation, load, value, flights, -, -, uses, rest⟩ | ⟨uses, flights, rest⟩
      · rw [rest, uses]
        exact Coalescing.lock_store sound key ⟨value, load⟩ generation now
      · rw [rest, uses]
        rfl

omit [EquivBEq K] [LawfulHashable K] in
/-- Whoever heals the lock empties the entries and begins a new generation. -/
theorem emptied_step (poisoned : traffic.cache.poisoned = true)
    (heals : (traffic.use event).heals = true) :
    (traffic.step event).cache.stats.entries = 0 ∧
      (traffic.step event).cache.generation = traffic.cache.generation + 1 := by
  have none : ∀ lru : Lru K (Loaded V), lru.clear.size = 0 := fun lru => Std.HashMap.size_empty
  cases event with
  | begin key now =>
      rw [step, Coalescing.begin_of_poisoned poisoned]
      exact ⟨none traffic.cache.entries, rfl⟩
  | clear => exact ⟨none traffic.cache.entries, rfl⟩
  | poison | resume | stop => cases heals
  | finish id result now =>
      rcases traffic.finish_cases id result now with
        ⟨lead, key, generation, load, value, flights, -, -, -, rest⟩ | ⟨uses, -⟩
      · rw [rest, Coalescing.store_of_poisoned poisoned]
        exact ⟨none traffic.cache.entries, rfl⟩
      · rw [uses] at heals
        cases heals

omit [EquivBEq K] [LawfulHashable K] in
/-- Once a new generation has begun, there is nothing left of what was loaded before, and none of it
will be stored. -/
theorem Moved.renewed_steady (moved : traffic.Moved good event after)
    (steady : traffic.Steady good) (grows : traffic.cache.generation < after.cache.generation)
    (better : Entry K (Loaded V) → Prop) : after.Steady better where
  entries_sound := moved.emptied steady.entries_sound (Nat.ne_of_gt grows) better
  callers_steady := by
    have outdated (caller : Caller K V E) (known : caller ∈ traffic.callers) :
        caller.Steady after.cache.generation better :=
      (steady.callers_steady caller known).outdated grows better
    cases moved with
    | idle | poisoned | turned => exact absurd grows (Nat.lt_irrefl _)
    | cleared => exact outdated
    | entered _ begun =>
        cases begun with
        | hit | joined | opened => exact absurd grows (Nat.lt_irrefl _)
        | bypassed =>
            intro caller member
            rcases mem_enter.mp member with known | rfl
            · exact outdated caller known
            · refine .of_not_leading _ _ fun call load loading => ?_
              cases loading
              rfl
    | @ended id leader generation load result? stored ends found leading stores =>
        intro caller member
        obtain ⟨place, other, known, rfl⟩ := mem_move member
        split
        · refine .of_not_leading _ _ fun call load loading => ?_
          cases result? <;> cases loading
        · exact (outdated other (List.mem_of_getElem? known)).hearAll _

/-- Whoever stores something later has begun to load it later. -/
theorem Steady.young_run {since : Nat}
    (steady : traffic.Steady fun entry => since < entry.value.load.started)
    (later : since < traffic.moment) (events : List (Event K V E)) :
    (traffic.run events).Steady fun entry => since < entry.value.load.started := by
  induction events generalizing traffic with
  | nil => exact steady
  | cons event rest ih =>
      have moved := steady.moved event
      refine ih (moved.steady steady fun _ _ _ => later) ?_
      rw [moved.moment_eq]
      exact Nat.lt_succ_of_lt later

omit [LawfulHashable K] in
/-- A load that began too early is not written back. -/
theorem Steady.finish_old {since : Nat}
    (steady : traffic.Steady fun entry => since < entry.value.load.started) {id : Nat}
    {caller : Caller K V E} {call : Coalescing.Call K} {load : Load}
    (found : traffic.callers[id]? = some caller) (loading : caller.stage = .loading call load)
    (old : load.started ≤ since) (result : Except E V) (now : Instant) :
    (traffic.step (.finish id result now)).cache.stats.puts = traffic.cache.stats.puts ∧
      (traffic.cache.poisoned = false →
        (traffic.step (.finish id result now)).cache.entries = traffic.cache.entries) := by
  rcases traffic.finish_cases id result now with
    ⟨lead, key, generation, load', value, flights, rfl, stands, -, rest⟩ | ⟨-, flights, rest⟩
  · rw [found, Option.map_some, loading] at stands
    cases stands
    -- In its own generation the load could be stored, and whatever can be stored is young.
    have outdated : traffic.cache.generation ≠ generation := by
      intro current
      obtain ⟨-, rfl, safe⟩ := steady.own_lead found loading
      exact absurd (safe current caller.key value now BEq.rfl) (Nat.not_lt.mpr old)
    rw [rest]
    by_cases poisoned : traffic.cache.poisoned = true
    · rw [Coalescing.store_of_poisoned poisoned]
      exact ⟨rfl, fun working => by cases poisoned.symm.trans working⟩
    · rw [Coalescing.store_of_outdated (Bool.not_eq_true _ ▸ poisoned) outdated]
      exact ⟨rfl, fun _ => rfl⟩
  · rw [rest]
    exact ⟨rfl, fun _ => rfl⟩

/-- Whoever loads for itself is not disturbed in it. -/
theorem Orderly.alone_run (orderly : traffic.Orderly) {id : Nat} {caller : Caller K V E}
    {load : Load} (found : traffic.callers[id]? = some caller)
    (alone : caller.stage.Alone load) (events : List (Event K V E)) :
    ∃ later, (traffic.run events).callers[id]? = some later ∧ later.key = caller.key ∧
      later.stage.Alone load := by
  induction events generalizing traffic caller with
  | nil => exact ⟨caller, found, rfl, alone⟩
  | cons event rest ih =>
      have moved := orderly.steady.moved event
      obtain ⟨next, found', sameKey, went⟩ := moved.caller_after orderly.ticketed found
      obtain ⟨later, last, sameKey', alone'⟩ := ih (orderly.step event) found' (went.alone alone)
      exact ⟨later, last, sameKey'.trans sameKey, alone'⟩

theorem Orderly.lasts_run (orderly : traffic.Orderly) (poisoned : traffic.cache.poisoned = true)
    (events : List (Event K V E))
    (fails : ∀ before event rest, events = before ++ event :: rest →
      ((traffic.run before).use event).heals = false) :
    (traffic.run events).cache.lock = traffic.cache.lock := by
  induction events generalizing traffic with
  | nil => rfl
  | cons event rest ih =>
      have same : (traffic.step event).cache.lock = traffic.cache.lock := by
        rw [lock_step orderly.steady.entries_sound]
        exact Lock.after_of_not_heals poisoned (fails [] event rest rfl)
      have still : (traffic.step event).cache.poisoned = true :=
        (congrArg Lock.poisoned same).trans poisoned
      refine (ih (orderly.step event) still fun before next after split => ?_).trans same
      exact fails (event :: before) next after (congrArg (event :: ·) split)

end Steps

section Stops

omit [BEq K] [Hashable K] in
theorem stopped_hearAll {caller : Caller K V E} {notices : List (Notice (Loaded V) (Loaded E))}
    (stopped : (caller.hearAll notices).stage = .stopped) : caller.stage = .stopped := by
  rcases caller.stage_hearAll_cases notices with same | ⟨-, _, -, -, told⟩
  · exact same.symm.trans stopped
  · cases told.symm.trans stopped

theorem stopped_move {id other : Nat} {stage : Stage K V E} {cache notices}
    {caller : Caller K V E}
    (found : (traffic.move id stage cache notices).callers[other]? = some caller)
    (stopped : caller.stage = .stopped) :
    id = other ∧ stage = .stopped ∨
      ∃ before, traffic.callers[other]? = some before ∧ before.stage = .stopped := by
  rw [callers_move] at found
  obtain ⟨before, known, rfl⟩ := Option.map_eq_some_iff.mp found
  split at stopped
  · exact .inl ⟨‹_›, stopped⟩
  · exact .inr ⟨before, known, stopped_hearAll stopped⟩

theorem stopped_step {id : Nat} {caller : Caller K V E}
    (found : (traffic.step event).callers[id]? = some caller) (stopped : caller.stage = .stopped) :
    event = .stop id ∨ ∃ before, traffic.callers[id]? = some before ∧ before.stage = .stopped := by
  cases event with
  | clear | poison => exact .inr ⟨caller, found, stopped⟩
  | begin key now =>
      rw [step] at found
      dsimp only at found
      rw [callers_enter] at found
      split at found
      · cases found
        generalize (traffic.cache.begin key now).2.1 = begin at stopped
        rcases begin with _ | ⟨_ | _ | _⟩ <;> cases stopped
      · obtain ⟨before, known, rfl⟩ := Option.map_eq_some_iff.mp found
        exact .inr ⟨before, known, stopped_hearAll stopped⟩
  | finish other result now =>
      rw [step] at found
      split at found
      · rcases stopped_move found stopped with ⟨-, ended⟩ | earlier
        · cases ended
        · exact .inr earlier
      · exact .inr ⟨caller, found, stopped⟩
  | resume other =>
      rw [step] at found
      split at found
      · rename_i notice _
        rcases stopped_move found stopped with ⟨-, ended⟩ | earlier
        · cases notice <;> cases ended
        · exact .inr earlier
      · exact .inr ⟨caller, found, stopped⟩
  | stop other =>
      rw [step] at found
      split at found
      case h_4 => exact .inr ⟨caller, found, stopped⟩
      all_goals
        refine (stopped_move found stopped).imp_left fun moved => ?_
        rw [moved.1]

end Stops

/-- How the failures of a cache end, and what its callers are given meanwhile, after a run and in the
step that comes next. -/
structure Contains (origin : Traffic K V E) (ttl : Span) (events : List (Event K V E))
    (event : Event K V E) : Prop where
  lock : ((origin.run events).step event).cache.lock =
    (origin.run events).cache.lock.after ((origin.run events).use event)
  /-- Nothing but a look-up, a write-back or a clear ends a failure. -/
  lasts : (origin.run events).cache.poisoned = true → ∀ later,
    (∀ before event rest, later = before ++ event :: rest →
      (((origin.run events).run before).use event).heals = false) →
    ((origin.run events).run later).cache.lock = (origin.run events).cache.lock
  emptied : (origin.run events).cache.poisoned = true →
    ((origin.run events).use event).heals = true →
    ((origin.run events).step event).cache.stats.entries = 0
  /-- Whoever meets a failure when looking something up loads for itself alone. -/
  bypasses : ∀ key now, event = .begin key now → (origin.run events).cache.poisoned = true →
    ∀ later, ∃ caller,
      (((origin.run events).step event).run later).callers[(origin.run events).callers.length]? =
        some caller ∧
      caller.key = key ∧ caller.stage.Alone ⟨(origin.run events).callers.length, events.length⟩
  /-- Whoever loads for itself alone stores nothing. -/
  aloof : ∀ id result now caller load, event = .finish id result now →
    (origin.run events).callers[id]? = some caller → caller.stage = .loading .direct load →
    ((origin.run events).step event).cache = (origin.run events).cache
  /-- What began to be loaded before a failure was got over is not written back after it. -/
  outdated : (origin.run events).cache.poisoned = true →
    ((origin.run events).use event).heals = true → ∀ later id result now caller call load,
    let traffic := ((origin.run events).step event).run later
    traffic.callers[id]? = some caller → caller.stage = .loading call load →
    load.started ≤ events.length →
    (traffic.step (.finish id result now)).cache.stats.puts = traffic.cache.stats.puts ∧
      (traffic.cache.poisoned = false →
        (traffic.step (.finish id result now)).cache.entries = traffic.cache.entries)
  /-- Callers return what was stored and is fresh, or what a loader has given. -/
  returns : ∀ (id : Nat) caller answer, (origin.run events).callers[id]? = some caller →
    caller.stage = .returned answer →
    (∃ value stored asked, answer = .ok value ∧
      events[caller.began]? = some (.begin caller.key asked) ∧
      (origin.run (events.take caller.began)).cache.poisoned = false ∧
      (origin.run (events.take caller.began)).cache.entries.Holds caller.key value stored ∧
      asked.nanos ≤ stored.nanos + ttl.nanos) ∨
    Gave origin events caller.key answer
  /-- Nobody is stopped by anything but an event that stops it. -/
  stands : ∀ (id : Nat) caller, (origin.run events).callers[id]? = some caller →
    caller.stage = .stopped → .stop id ∈ events

section Runs

variable [EquivBEq K] [LawfulHashable K] (name : String) (capacity : Nat) (ttl : Span)
  (events : List (Event K V E))

/-- An event that is a look-up finds what the entries hold, any other brings what it brings. -/
theorem Orderly.moved_looking (orderly : traffic.Orderly) (event : Event K V E) :
    traffic.Moved (fun entry => ∀ key now, event = .begin key now → entry.key == key →
      traffic.cache.entries.Holds key entry.value entry.inserted) event (traffic.step event) := by
  refine orderly.steady.moved_of
    (orderly.steady.entries_sound.holds.mono fun entry holds key _ _ => holds key) ?_
  intro id caller generation load value now finishes _ _ _ _ stored _ key now' begins
  cases finishes.symm.trans begins

theorem returns_run {id : Nat} {caller : Caller K V E} {answer : Answer V E}
    (found : ((start name capacity ttl).run events).callers[id]? = some caller)
    (returned : caller.stage = .returned answer) :
    (∃ value stored asked, answer = .ok value ∧
      events[caller.began]? = some (.begin caller.key asked) ∧
      ((start name capacity ttl : Traffic K V E).run
        (events.take caller.began)).cache.poisoned = false ∧
      ((start name capacity ttl : Traffic K V E).run
        (events.take caller.began)).cache.entries.Holds caller.key value stored ∧
      asked.nanos ≤ stored.nanos + ttl.nanos) ∨
    Gave (start name capacity ttl) events caller.key answer := by
  have origin : (start name capacity ttl : Traffic K V E).Orderly := .start name capacity ttl
  induction events using List.reverseRecOn generalizing caller with
  | nil => cases found
  | append_singleton events event ih =>
      have orderly := origin.run events
      have traced := (Traced.start name capacity ttl).run origin events
      have moment := origin.moment_run events
      rw [run_append] at found
      rcases (orderly.moved_looking event).caller_cases orderly.ticketed found with
        ⟨before, known, sameKey, began, -, went⟩ | ⟨-, key, now, cache, begin, begins, begun, rfl⟩
      · have bounded : before.began < events.length := by
          have bounded := traced.began_lt (List.mem_of_getElem? known)
          rw [moment] at bounded
          exact (Nat.zero_add events.length).subst bounded
        rw [sameKey, began, List.getElem?_append_left bounded,
          List.take_append_of_le_length (Nat.le_of_lt bounded)]
        rcases gave_of_went name capacity ttl known went returned with older | ⟨gave, -⟩
        · exact (ih known older).imp_right fun gave => gave.extend [event]
        · exact .inr gave
      · cases begun with
        | @hit entries entry working _ holds equal fresh =>
            cases returned
            -- The newcomer's look-up is the last event, so it has found what all others have left.
            have asked : ((start name capacity ttl).run events).moment = events.length :=
              moment.trans (Nat.zero_add _)
            refine .inl ⟨entry.value, entry.inserted, now, rfl, ?_, ?_, ?_, ?_⟩
            · change (events ++ [event])[((start name capacity ttl).run events).moment]? = _
              rw [asked, List.getElem?_concat_length, begins]
              rfl
            · change ((start name capacity ttl).run
                ((events ++ [event]).take
                  ((start name capacity ttl).run events).moment)).cache.poisoned = false
              rw [asked, List.take_left]
              exact working
            · change ((start name capacity ttl).run
                ((events ++ [event]).take
                  ((start name capacity ttl).run events).moment)).cache.entries.Holds key _ _
              rw [asked, List.take_left]
              exact holds key now begins equal
            · rw [ttl_run, Bool.eq_false_iff, Ne, Instant.outlives_iff] at fresh
              omega
        | _ => cases returned

omit [EquivBEq K] [LawfulHashable K] in
theorem stands_run {id : Nat} {caller : Caller K V E}
    (found : ((start name capacity ttl).run events).callers[id]? = some caller)
    (stopped : caller.stage = .stopped) : .stop id ∈ events := by
  induction events using List.reverseRecOn generalizing caller with
  | nil => cases found
  | append_singleton events event ih =>
      rw [run_append] at found
      rcases stopped_step found stopped with rfl | ⟨before, known, earlier⟩
      · exact List.mem_append_right _ List.mem_cons_self
      · exact List.mem_append_left _ (ih known earlier)

/-- However calls, clears and failures follow one another, the failures stay inside the cache. -/
theorem contains (event : Event K V E) : (start name capacity ttl).Contains ttl events event := by
  have orderly : ((start name capacity ttl : Traffic K V E).run events).Orderly :=
    (Orderly.start name capacity ttl).run events
  have moment : ((start name capacity ttl : Traffic K V E).run events).moment = events.length :=
    ((Orderly.start name capacity ttl).moment_run events).trans (Nat.zero_add _)
  exact {
    lock := lock_step orderly.steady.entries_sound event
    lasts := orderly.lasts_run
    emptied := fun poisoned heals => (emptied_step poisoned heals).1
    bypasses := by
      rintro key now rfl poisoned later
      have found : (((start name capacity ttl).run events).step (.begin key now)).callers[
          ((start name capacity ttl).run events).callers.length]? = some
            (((start name capacity ttl).run events).newcomer key (.pending .direct)) := by
        rw [step, Coalescing.begin_of_poisoned poisoned]
        dsimp only
        rw [callers_enter, if_pos rfl]
      have alone : (((start name capacity ttl : Traffic K V E).run events).newcomer key
          (.pending .direct)).stage.Alone
            ⟨((start name capacity ttl).run events).callers.length, events.length⟩ :=
        moment ▸ .loading
      exact (orderly.step _).alone_run found alone later
    aloof := by
      rintro id result now caller load rfl found loading
      rw [step, found, Option.map_some, loading]
      rfl
    outdated := by
      intro poisoned heals later id result now caller call load traffic found loading old
      have moved := orderly.steady.moved event
      have renewed := (emptied_step poisoned heals).2
      have steady := moved.renewed_steady orderly.steady (renewed ▸ Nat.lt_succ_self _)
        fun entry => events.length < entry.value.load.started
      have young : events.length < (((start name capacity ttl).run events).step event).moment := by
        rw [moved.moment_eq, moment]
        exact Nat.lt_succ_self _
      exact (steady.young_run young later).finish_old found loading old result now
    returns := fun id caller answer found returned =>
      returns_run name capacity ttl events found returned
    stands := fun id caller found stopped => stands_run name capacity ttl events found stopped }

end Runs

end Traffic

end Roster.Cache
