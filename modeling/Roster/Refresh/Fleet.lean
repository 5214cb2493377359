import Mathlib.Logic.Function.Basic
import Roster.Refresh.Attempt

namespace Roster.Refresh

/-! Any number of coordinators that run their cycles over one store. Whatever a cycle does between two
waits is one step. What a coordinator shares with others may change under it, and so may what the
store fails at and, by other hands, what it holds. -/

/-- What a cycle asks of the store and of the source. -/
inductive Ask where
  | lock (key : LockKey)
  | count
  | fetch (page : UInt32)
  | upsert (rows : List Character)
  | release
  deriving DecidableEq

/-- What a cycle has asked for when it begins to wait like this. -/
def Cycle.asks {L : Type} : Cycle L → List Ask
  | acquiring mode => [.lock mode.lock]
  | counting _ => [.count]
  | walking .. => []
  | fetching _ _ _ fetch => [.fetch fetch.page]
  | pausing .. => []
  | storing _ gathered _ => [.upsert gathered.kept.rows]
  | releasing .. => [.release]

namespace Stage

def asks : Stage → List Ask
  | running cycle => cycle.asks
  | _ => []

/-- The lease that is held at a stage: none before the lock is taken, none once it is given up. -/
def lease? : Stage → Option Lease
  | running cycle => cycle.lease?
  | _ => none

end Stage

/-- A cycle that a coordinator runs, and all that it has asked for so far. -/
structure Errand where
  coordinator : Nat
  mode : Mode
  stage : Stage
  asked : List Ask

namespace Errand

def begin (coordinator : Nat) (mode : Mode) (stage : Stage) : Errand :=
  { coordinator, mode, stage, asked := stage.asks }

def go (errand : Errand) (stage : Stage) : Errand :=
  { errand with stage, asked := errand.asked ++ stage.asks }

end Errand

structure Fleet where
  store : Simulation.FaultyStore
  coordinators : Nat → Replica
  errands : List Errand := []

namespace Fleet

inductive Event where
  | begin (coordinator : Nat) (mode : Mode)
  | reply (errand : Nat) (reply : Reply)
  /-- A cycle is stopped, or the fetch that it waits for panics. -/
  | stop (errand : Nat)
  /-- Others write to the store. -/
  | write (characters : List Character)
  /-- From now on the store fails like this one. -/
  | disturb (store : Simulation.FaultyStore)
  /-- Others change what they share with a coordinator. -/
  | share (coordinator : Nat) (client : Source.Client) (pages : PageCache) (freshness : Freshness)

def locks (fleet : Fleet) : LockTable := fleet.store.memory.locks

/-- How a cycle stands among what it works on. -/
def attempt (fleet : Fleet) (errand : Errand) : Attempt where
  store := fleet.store
  replica := fleet.coordinators errand.coordinator
  stage := errand.stage

def put (fleet : Fleet) (id : Nat) (errand : Errand) (after : Attempt) : Fleet where
  store := after.store
  coordinators := Function.update fleet.coordinators errand.coordinator after.replica
  errands := fleet.errands.set id (errand.go after.stage)

def act (fleet : Fleet) (id : Nat) (event : Attempt.Event) : Fleet :=
  match fleet.errands[id]? with
  | some errand => fleet.put id errand ((fleet.attempt errand).step event)
  | none => fleet

def step (fleet : Fleet) : Event → Fleet
  | .begin place mode =>
    let begun := Attempt.start fleet.store (fleet.coordinators place) mode
    { store := begun.store
      coordinators := Function.update fleet.coordinators place begun.replica
      errands := fleet.errands ++ [.begin place mode begun.stage] }
  | .reply id reply => fleet.act id (.reply reply)
  | .stop id => fleet.act id .stop
  | .write characters =>
    { fleet with
      store := { fleet.store with memory := (fleet.store.memory.upsert characters).1 } }
  | .disturb store => { fleet with store := { store with memory := fleet.store.memory } }
  | .share place client pages freshness =>
    { fleet with
      coordinators := Function.update fleet.coordinators place
        { fleet.coordinators place with client, pages, freshness } }

def run (fleet : Fleet) (events : List Event) : Fleet := events.foldl step fleet

/-- All coordinators at rest over a store of which no lock is held. -/
def start (store : Simulation.FaultyStore) (coordinators : Nat → Replica) : Fleet where
  store := { store with memory := { store.memory with locks := {} } }
  coordinators := coordinators

/-- The leases of all cycles that hold one. -/
def leases (fleet : Fleet) : List Lease := fleet.errands.filterMap (·.stage.lease?)

end Fleet

end Roster.Refresh
