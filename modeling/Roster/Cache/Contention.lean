import Roster.Cache.Traffic

namespace Roster.Cache

/-! Callers that share a cache and run at the same time. What is done under one lock is one step, and
between two locks anything can happen. Where callers take turns, so that each gets from one wait to the
next undisturbed, these steps add up to those of `Traffic`. -/

namespace Coalescing

variable {K V : Type} [BEq K] [Hashable K]

/-- What a clear does under the lock of the entries. -/
def empty (cache : Coalescing K V) : Coalescing K V :=
  { cache with entries := cache.entries.clear, generation := cache.generation + 1 }

/-- What a clear does when it has let go of the lock. -/
def mend (cache : Coalescing K V) : Coalescing K V := { cache with poisoned := false }

theorem clear_eq (cache : Coalescing K V) : cache.clear = cache.empty.mend := rfl

/-- What is done under the lock of the entries to keep a loaded value. -/
def write (cache : Coalescing K V) (key : K) (value : V) (generation : Nat) (now : Instant) :
    Except CacheError (Coalescing K V) :=
  if cache.poisoned then .error (.lockPoisoned cache.name)
  else if cache.generation ≠ generation then .ok cache
  else do
    let entries ← cache.entries.insert key value now
    return { cache with entries, counters := cache.counters.put }

theorem store_eq (cache : Coalescing K V) (key : K) (value : V) (generation : Nat)
    (now : Instant) :
    cache.store key value generation now =
      match cache.write key value generation now with
      | .ok cache => cache
      | .error _ => { cache with counters := cache.counters.error }.empty.mend := by
  rw [store, write]
  split
  · rfl
  · split
    · rfl
    · cases cache.entries.insert key value now <;> rfl

end Coalescing

namespace Contention

/-- How a caller goes on when it has emptied the entries after a failure. -/
inductive Onward (V E : Type) where
  | load
  | complete (answer : Answer V E)

/-- What a caller does next, or what it waits for. -/
inductive Stage (V E : Type) where
  | looking
  | joining
  /-- Has opened a flight, and reads the generation next. -/
  | leading
  /-- Looks once more, as a value may have been stored since it missed. -/
  | checking (generation : Nat)
  /-- Waits for its loader. A leader knows the generation in which it began. -/
  | loading (generation? : Option Nat) (load : Load)
  | storing (generation : Nat) (value : Loaded V)
  /-- Ends its flight, with nothing to tell if it was stopped. -/
  | completing (result : Option (Answer V E))
  | telling (result : Option (Answer V E)) (tickets : List Ticket)
  | waiting
  /-- Has been told of the end of its flight and has not gone on yet. -/
  | told (notice : Option (Answer V E))
  /-- Empties the entries after a failure. -/
  | emptying (onward : Onward V E)
  | mending (onward : Onward V E)
  | returned (answer : Answer V E)
  | stopped

namespace Stage

variable {V E : Type}

/-- Whether a flight is in the hands of the caller. -/
def leads : Stage V E → Bool
  | leading => true
  | checking _ => true
  | loading generation? _ => generation?.isSome
  | storing .. => true
  | emptying (.complete _) => true
  | mending (.complete _) => true
  | completing _ => true
  | _ => false

/-- How a caller goes on whose loader has ended. -/
def finish? (result : Except E V) : Stage V E → Option (Stage V E)
  | loading none load => some (.returned (load.mark result))
  | loading (some generation) load =>
    match result with
    | .ok value => some (.storing generation ⟨value, load⟩)
    | .error error => some (.completing (some (.error ⟨error, load⟩)))
  | _ => none

/-- How a caller ends that is stopped where it waits, or whose loader panics. -/
def stop? : Stage V E → Option (Stage V E)
  | loading none _ => some .stopped
  | loading (some _) _ => some (.completing none)
  | waiting => some .stopped
  | told _ => some .stopped
  | _ => none

end Stage

structure Caller (K V E : Type) where
  key : K
  /-- The caller whose flight it has joined. -/
  leader? : Option Nat := none
  ticket? : Option Ticket := none
  stage : Stage V E := .looking

namespace Caller

variable {K V E : Type}

def leads [BEq K] (caller : Caller K V E) (key : K) : Bool :=
  caller.stage.leads && caller.key == key

def hear (caller : Caller K V E) (notice : Notice (Loaded V) (Loaded E)) : Caller K V E :=
  match caller.stage with
  | .waiting =>
    if caller.ticket? = some notice.ticket then { caller with stage := .told notice.result }
    else caller
  | _ => caller

end Caller

inductive Event (K V E : Type) where
  | begin (key : K)
  /-- A caller that does not wait takes its next step. -/
  | act (caller : Nat) (now : Instant)
  | finish (caller : Nat) (result : Except E V)
  /-- A caller is stopped where it waits, or its loader panics. -/
  | stop (caller : Nat)
  /-- Somebody else empties the entries. -/
  | clear
  /-- One of those who have emptied the entries lifts the poison. -/
  | mend
  | poison

end Contention

/-- A cache and all who have called it so far, in the order in which they began. -/
structure Contention (K V E : Type) [BEq K] [Hashable K] where
  cache : Coalescing K (Loaded V)
  callers : List (Contention.Caller K V E) := []
  /-- How many clears have emptied the entries and not lifted the poison. -/
  unmended : Nat := 0
  moment : Nat := 0

namespace Contention

variable {K V E : Type} [BEq K] [Hashable K]

def leader? (contention : Contention K V E) (key : K) : Option Nat :=
  contention.callers.findIdx? (·.leads key)

def load (contention : Contention K V E) (id : Nat) : Load := ⟨id, contention.moment⟩

/-- A step that changes only the cache. -/
def tick (contention : Contention K V E) (cache : Coalescing K (Loaded V)) : Contention K V E :=
  { contention with cache, moment := contention.moment + 1 }

def move (contention : Contention K V E) (id : Nat) (stage : Stage V E)
    (cache : Coalescing K (Loaded V)) : Contention K V E :=
  { contention with
    cache
    callers := contention.callers.modify id ({ · with stage })
    moment := contention.moment + 1 }

/-- A caller joins the flight for its key. -/
def enlist (contention : Contention K V E) (id : Nat) (key : K) (ticket : Ticket)
    (cache : Coalescing K (Loaded V)) : Contention K V E :=
  { contention with
    cache
    callers := contention.callers.modify id fun caller =>
      { caller with
        leader? := contention.leader? key
        ticket? := some ticket
        stage := .waiting }
    moment := contention.moment + 1 }

def tell (contention : Contention K V E) (id : Nat) (notice : Notice (Loaded V) (Loaded E))
    (rest : List Ticket) : Contention K V E :=
  { contention with
    callers := (contention.callers.map (·.hear notice)).modify id
      ({ · with stage := .telling notice.result rest })
    moment := contention.moment + 1 }

/-- The next step of a caller on its own. -/
def act (contention : Contention K V E) (id : Nat) (caller : Caller K V E) (now : Instant) :
    Contention K V E :=
  match caller.stage with
  | .looking =>
    match contention.cache.lookup caller.key now with
    | .ok (cache, some value) =>
      contention.move id (.returned (.ok value)) { cache with counters := cache.counters.hit }
    | .ok (cache, none) =>
      contention.move id .joining { cache with counters := cache.counters.miss }
    | .error _ =>
      contention.move id (.emptying .load)
        { contention.cache with counters := contention.cache.counters.error }
  | .joining =>
    match contention.cache.join caller.key with
    | (cache, some ticket) => contention.enlist id caller.key ticket cache
    | (cache, none) => contention.move id .leading cache
  | .leading => contention.move id (.checking contention.cache.generation) contention.cache
  | .checking generation =>
    match contention.cache.lookup caller.key now with
    | .ok (cache, some value) => contention.move id (.completing (some (.ok value))) cache
    | .ok (cache, none) =>
      contention.move id (.loading (some generation) (contention.load id)) cache
    | .error _ =>
      contention.move id (.loading (some generation) (contention.load id)) contention.cache
  | .storing generation value =>
    match contention.cache.write caller.key value generation now with
    | .ok cache => contention.move id (.completing (some (.ok value))) cache
    | .error _ =>
      contention.move id (.emptying (.complete (.ok value)))
        { contention.cache with counters := contention.cache.counters.error }
  | .completing result =>
    let (cache, tickets) := contention.cache.takeWaiters caller.key
    contention.move id (.telling result tickets) cache
  | .telling result (ticket :: rest) => contention.tell id ⟨ticket, result⟩ rest
  | .telling (some answer) [] => contention.move id (.returned answer) contention.cache
  | .telling none [] => contention.move id .stopped contention.cache
  | .told (some answer) => contention.move id (.returned answer) contention.cache
  | .told none => contention.move id (.loading none (contention.load id)) contention.cache
  | .emptying onward => contention.move id (.mending onward) contention.cache.empty
  | .mending .load =>
    contention.move id (.loading none (contention.load id)) contention.cache.mend
  | .mending (.complete answer) =>
    contention.move id (.completing (some answer)) contention.cache.mend
  | _ => contention.tick contention.cache

/-- Where each kind of event leads. What cannot happen changes nothing. -/
def step (contention : Contention K V E) : Event K V E → Contention K V E
  | .begin key =>
    { contention with
      callers := contention.callers ++ [{ key }]
      moment := contention.moment + 1 }
  | .act id now =>
    match contention.callers[id]? with
    | some caller => contention.act id caller now
    | none => contention.tick contention.cache
  | .finish id result =>
    match contention.callers[id]?.bind (·.stage.finish? result) with
    | some stage => contention.move id stage contention.cache
    | none => contention.tick contention.cache
  | .stop id =>
    match contention.callers[id]?.bind (·.stage.stop?) with
    | some stage => contention.move id stage contention.cache
    | none => contention.tick contention.cache
  | .clear =>
    { contention.tick contention.cache.empty with unmended := contention.unmended + 1 }
  | .mend =>
    if contention.unmended = 0 then contention.tick contention.cache
    else { contention.tick contention.cache.mend with unmended := contention.unmended - 1 }
  | .poison => contention.tick contention.cache.poison

def start (name : String) (capacity : Nat) (ttl : Span) : Contention K V E :=
  { cache := .new name capacity ttl }

def run (contention : Contention K V E) (events : List (Event K V E)) : Contention K V E :=
  events.foldl step contention

end Contention

end Roster.Cache
