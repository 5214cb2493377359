import Roster.Cache.Coalescing

namespace Roster.Cache

/-! Callers that share a cache, one step at a time: whatever a caller does between two waits is one
step, and any caller may be stopped where it waits. So the callers take turns, as they do on one thread,
and what is said of their runs is said at their waits. `Contention` lets them run at the same time, and
there each lock is a step of its own. The moment of a step is the number of steps before it. What a
loader gives is marked with the caller that runs it and the moment at which it was started. -/

structure Load where
  caller : Nat
  started : Nat
  deriving DecidableEq

structure Loaded (α : Type) where
  content : α
  load : Load
  deriving DecidableEq

/-- A value or an error, and the loader that it comes from. -/
abbrev Answer (V E : Type) := Except (Loaded E) (Loaded V)

variable {K V E : Type}

namespace Load

def mark (load : Load) : Except E V → Answer V E
  | .ok value => .ok ⟨value, load⟩
  | .error error => .error ⟨error, load⟩

end Load

namespace Answer

def load : Answer V E → Load
  | .ok value => value.load
  | .error error => error.load

end Answer

inductive Stage (K V E : Type) where
  | loading (call : Coalescing.Call K) (load : Load)
  | waiting
  /-- Has been told of the end of its flight and has not gone on yet. -/
  | told (notice : Option (Answer V E))
  | returned (answer : Answer V E)
  /-- Was stopped, or its loader has panicked. -/
  | stopped

def Stage.lead? : Stage K V E → Option (Coalescing.Lead K)
  | .loading (.leading lead _ _) _ => some lead
  | _ => none

structure Caller (K V E : Type) where
  key : K
  began : Nat
  /-- The caller whose flight it has joined. -/
  leader? : Option Nat := none
  ticket? : Option Ticket := none
  /-- What it has been told of the end of its flight. -/
  notices : List (Option (Answer V E)) := []
  stage : Stage K V E

namespace Caller

def leads [BEq K] (caller : Caller K V E) (key : K) : Bool :=
  (caller.stage.lead?.bind Coalescing.Lead.key?).any (· == key)

/-- Tells a caller of the end of its flight. Whoever does not wait is not waked up by it. -/
def tell (caller : Caller K V E) (result : Option (Answer V E)) : Caller K V E :=
  { caller with
    notices := caller.notices ++ [result]
    stage := match caller.stage with
      | .waiting => .told result
      | stage => stage }

def hear (caller : Caller K V E) (notice : Notice (Loaded V) (Loaded E)) : Caller K V E :=
  if caller.ticket? = some notice.ticket then caller.tell notice.result else caller

def hearAll (caller : Caller K V E) (notices : List (Notice (Loaded V) (Loaded E))) :
    Caller K V E :=
  notices.foldl hear caller

end Caller

/-- A cache and all who have called it so far, in the order in which they began. -/
structure Traffic (K V E : Type) [BEq K] [Hashable K] where
  cache : Coalescing K (Loaded V)
  callers : List (Caller K V E) := []
  moment : Nat := 0

/-- Where a caller stands whose loader has ended: with a result, or because it was stopped or has
panicked. -/
def Load.outcome (load : Load) : Option (Except E V) → Stage K V E
  | some result => .returned (load.mark result)
  | none => .stopped

inductive Event (K V E : Type) where
  | begin (key : K) (now : Instant)
  | finish (caller : Nat) (result : Except E V) (now : Instant)
  | resume (caller : Nat)
  /-- A caller is stopped, or its loader panics. -/
  | stop (caller : Nat)
  | clear
  | poison

/-- The events that end the loader of a caller, and what it has given. -/
inductive Event.Ends : Event K V E → Nat → Option (Except E V) → Prop
  | finish (id : Nat) (result : Except E V) (now : Instant) :
      Ends (.finish id result now) id (some result)
  | stop (id : Nat) : Ends (.stop id) id none

namespace Traffic

variable [BEq K] [Hashable K]

def leader? (traffic : Traffic K V E) (key : K) : Option Nat :=
  traffic.callers.findIdx? (·.leads key)

/-- A step that changes only the cache. -/
def tick (traffic : Traffic K V E) (cache : Coalescing K (Loaded V)) : Traffic K V E :=
  { traffic with cache, moment := traffic.moment + 1 }

def move (traffic : Traffic K V E) (id : Nat) (stage : Stage K V E)
    (cache : Coalescing K (Loaded V)) (notices : List (Notice (Loaded V) (Loaded E))) :
    Traffic K V E :=
  { cache
    callers := (traffic.callers.map (·.hearAll notices)).modify id ({ · with stage })
    moment := traffic.moment + 1 }

def enter (traffic : Traffic K V E) (caller : Caller K V E)
    (cache : Coalescing K (Loaded V)) (notices : List (Notice (Loaded V) (Loaded E))) :
    Traffic K V E :=
  { cache
    callers := traffic.callers.map (·.hearAll notices) ++ [caller]
    moment := traffic.moment + 1 }

def load (traffic : Traffic K V E) (id : Nat) : Load := ⟨id, traffic.moment⟩

/-- What a caller does after it has been told of its flight: it returns the result, or runs its own
loader if there is none. -/
def reaction (traffic : Traffic K V E) (id : Nat) : Option (Answer V E) → Stage K V E
  | some answer => .returned answer
  | none => .loading .direct (traffic.load id)

def newcomer (traffic : Traffic K V E) (key : K) : Coalescing.Begin K (Loaded V) → Caller K V E
  | .hit value => { key, began := traffic.moment, stage := .returned (.ok value) }
  | .pending (.waiting ticket) =>
    { key
      began := traffic.moment
      leader? := traffic.leader? key
      ticket? := some ticket
      stage := .waiting }
  | .pending call =>
    { key
      began := traffic.moment
      stage := .loading call (traffic.load traffic.callers.length) }

/-- Where each kind of event leads. What cannot happen changes nothing. -/
def step (traffic : Traffic K V E) : Event K V E → Traffic K V E
  | .begin key now =>
    let (cache, begun, notices) := traffic.cache.begin key now
    traffic.enter (traffic.newcomer key begun) cache notices
  | .finish id result now =>
    match traffic.callers[id]?.map Caller.stage with
    | some (.loading call load) =>
      let (cache, notices) := traffic.cache.finish call (load.mark result) now
      traffic.move id (.returned (load.mark result)) cache notices
    | _ => traffic.tick traffic.cache
  | .resume id =>
    match traffic.callers[id]?.map Caller.stage with
    | some (.told notice) => traffic.move id (traffic.reaction id notice) traffic.cache []
    | _ => traffic.tick traffic.cache
  | .stop id =>
    match traffic.callers[id]?.map Caller.stage with
    | some (.loading call _) =>
      let (cache, notices) := traffic.cache.abandon call
      traffic.move id .stopped cache notices
    | some .waiting => traffic.move id .stopped traffic.cache []
    | some (.told _) => traffic.move id .stopped traffic.cache []
    | _ => traffic.tick traffic.cache
  | .clear => traffic.tick traffic.cache.clear
  | .poison => traffic.tick traffic.cache.poison

def start (name : String) (capacity : Nat) (ttl : Span) : Traffic K V E :=
  { cache := .new name capacity ttl }

def run (traffic : Traffic K V E) (events : List (Event K V E)) : Traffic K V E :=
  events.foldl step traffic

end Traffic

end Roster.Cache
