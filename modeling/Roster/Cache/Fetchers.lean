import Roster.Cache.Memo
import Roster.Cache.Traffic

namespace Roster.Cache

/-! Callers that share a cache of fetched answers, one step at a time. Each fetches for itself, so no
step of one touches another. -/

variable {K V E : Type}

inductive Fetcher.Stage (V E : Type) where
  | fetching (load : Load)
  | returned (answer : Answer V E)
  /-- Was stopped, or its fetch has panicked. -/
  | stopped

structure Fetcher (K V E : Type) where
  key : K
  began : Nat
  stage : Fetcher.Stage V E

/-- A cache of fetched answers and all who have called it so far, in the order in which they began. -/
structure Fetchers (K V E : Type) [BEq K] [Hashable K] where
  memo : Memo K (Loaded V)
  callers : List (Fetcher K V E) := []
  moment : Nat := 0

/-- Where a caller stands whose fetch has ended. -/
def Fetcher.Stage.ofEnd (load : Load) : Option (Except E V) → Fetcher.Stage V E
  | some result => .returned (load.mark result)
  | none => .stopped

namespace Fetchers

variable [BEq K] [Hashable K]

def go (fetchers : Fetchers K V E) (memo : Memo K (Loaded V)) (callers : List (Fetcher K V E)) :
    Fetchers K V E :=
  { memo, callers, moment := fetchers.moment + 1 }

def newcomer (fetchers : Fetchers K V E) (key : K) (found : Option (Loaded V)) :
    Fetcher K V E where
  key := key
  began := fetchers.moment
  stage :=
    match found with
    | some value => .returned (.ok value)
    | none => .fetching ⟨fetchers.callers.length, fetchers.moment⟩

/-- Ends the fetch of a caller. -/
def settle (fetchers : Fetchers K V E) (id : Nat) (memo : Memo K (Loaded V))
    (stage : Fetcher.Stage V E) : Fetchers K V E :=
  fetchers.go memo (fetchers.callers.modify id ({ · with stage }))

/-- Only answers are kept, errors are not. -/
def keep (memo : Memo K (Loaded V)) (key : K) (load : Load) (result : Except E V) (now : Instant) :
    Memo K (Loaded V) :=
  match result with
  | .ok value => memo.keep key ⟨value, load⟩ now
  | .error _ => memo

/-- Where each kind of event leads. What cannot happen changes nothing. -/
def step (fetchers : Fetchers K V E) : Event K V E → Fetchers K V E
  | .begin key now =>
    let (memo, found) := fetchers.memo.look key now
    fetchers.go memo (fetchers.callers ++ [fetchers.newcomer key found])
  | .finish id result now =>
    match fetchers.callers[id]? with
    | some ⟨key, _, .fetching load⟩ =>
      fetchers.settle id (keep fetchers.memo key load result now) (.ofEnd load (some result))
    | _ => fetchers.go fetchers.memo fetchers.callers
  | .stop id =>
    match fetchers.callers[id]? with
    | some ⟨_, _, .fetching load⟩ => fetchers.settle id fetchers.memo (.ofEnd load none)
    | _ => fetchers.go fetchers.memo fetchers.callers
  | .resume _ => fetchers.go fetchers.memo fetchers.callers
  | .clear => fetchers.go fetchers.memo.clear fetchers.callers
  | .poison => fetchers.go { fetchers.memo with poisoned := true } fetchers.callers

def start (name : String) (capacity : Nat) (ttl : Span) : Fetchers K V E :=
  { memo := .new name capacity ttl }

def run (fetchers : Fetchers K V E) (events : List (Event K V E)) : Fetchers K V E :=
  events.foldl step fetchers

end Fetchers

end Roster.Cache
