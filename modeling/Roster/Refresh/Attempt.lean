import Roster.Refresh.Cycle
import Roster.Simulation.FaultyStore
import Roster.Source.Stream

namespace Roster.Refresh

/-! A cycle with the store and the replica that it works on. The store may fail, the source may
answer anything, and the cycle may be stopped wherever it waits. What a replica shares with others,
and what is stored, may meanwhile be changed by them. -/

/-- What a cycle is answered by the source and by the clocks. -/
structure Reply extends Source.Reply where
  time : Timestamp

inductive Stage where
  | running (cycle : Cycle Lease)
  | ended (outcome : Outcome)
  | stopped

def Stage.isOver : Stage → Bool
  | running _ => false
  | _ => true

structure Attempt where
  store : Simulation.FaultyStore
  replica : Replica
  stage : Stage

namespace Attempt

def start (store : Simulation.FaultyStore) (replica : Replica) (mode : Mode) : Attempt :=
  let (replica, cycle) := Cycle.start replica mode
  { store, replica, stage := .running cycle }

inductive Event where
  | reply (reply : Reply)
  /-- The cycle is stopped, or the fetch that it waits for panics. -/
  | stop
  /-- Others change the store, its failures and its rows, and what they share with the replica. -/
  | meanwhile (store : Simulation.FaultyStore) (pages : PageCache) (lastMillis : Option Int)

def Event.isForeign : Event → Bool
  | meanwhile .. => true
  | _ => false

/-- Lets a cycle go: its lease is given up. -/
def abandon (attempt : Attempt) (cycle : Cycle Lease) : Attempt where
  store :=
    match cycle.lease? with
    | some lease => attempt.store.free lease
    | none => attempt.store
  replica := cycle.cancel attempt.replica
  stage := .stopped

def take (store : Simulation.FaultyStore) : Replica × Cycle.Step Lease → Attempt
  | (replica, .await cycle) => { store, replica, stage := .running cycle }
  | (replica, .ended outcome) => { store, replica, stage := .ended outcome }

/-- Lets what a cycle waits for happen and takes the cycle on, unless it comes to grief. -/
def advance (attempt : Attempt) (reply : Reply) : Cycle Lease → Attempt
  | .acquiring mode =>
    let (store, answer) := attempt.store.tryLock mode.lock
    take store (Cycle.onLock attempt.replica mode answer)
  | .counting lease => take attempt.store (Cycle.onCount attempt.replica lease attempt.store.count)
  | .walking lease gathered walk =>
    take attempt.store (Cycle.onWalk attempt.replica lease gathered walk reply.now)
  | .fetching lease gathered walk fetch =>
    take attempt.store
      (Cycle.onPage attempt.replica lease gathered walk fetch reply.page reply.draw reply.now)
  | .pausing lease gathered walk fetch _ =>
    take attempt.store (Cycle.onWake attempt.replica lease gathered walk fetch)
  | .storing lease gathered cutShort =>
    match attempt.store.upsert gathered.kept.rows with
    | (store, some answer) =>
      take store (Cycle.onUpsert attempt.replica lease gathered cutShort answer reply.time)
    | (store, none) => { attempt with store }.abandon (.storing lease gathered cutShort)
  | .releasing lease outcome =>
    take (attempt.store.free lease) (Cycle.onRelease attempt.replica outcome)

/-- Where each kind of event leads. Once the cycle is over it changes nothing. -/
def step (attempt : Attempt) : Event → Attempt
  | .reply reply =>
    match attempt.stage with
    | .running cycle => attempt.advance reply cycle
    | _ => attempt
  | .stop =>
    match attempt.stage with
    | .running cycle => attempt.abandon cycle
    | _ => attempt
  | .meanwhile store pages lastMillis =>
    { attempt with
      store := { store with memory := { store.memory with locks := attempt.store.memory.locks } }
      replica := { attempt.replica with
        pages
        freshness := { attempt.replica.freshness with lastMillis } } }

def run (attempt : Attempt) (events : List Event) : Attempt := events.foldl step attempt

variable {attempt : Attempt} {cycle : Cycle Lease}

end Attempt

end Roster.Refresh
