import Roster.Character.Batch
import Roster.Replica
import Roster.Source.Walk
import Roster.Store.Error

namespace Roster.Refresh

/-! One refresh cycle. It takes a lock, walks the pages of the source, keeps what is admitted, writes
it to the store, and only then empties the page cache and notes the time. Whoever finds the lock
held skips the cycle.

A cycle is a value that says what it waits for; each kind of answer takes it to the next wait or to
its outcome. `L` is the type of the store's leases. -/

/-- What has been taken from the pages so far. Of several candidates with one id the last counts. Pages
are counted without a bound; in a walk of fewer than 2 ^ 32 pages a count in 32 bits is the same. -/
structure Gathered where
  pages : Nat := 0
  fetched : Nat := 0
  kept : Batch := ∅

def Gathered.add (gathered : Gathered) (page : SourcePage) : Gathered where
  pages := gathered.pages + 1
  fetched := gathered.fetched + page.results.length
  kept := gathered.kept.insertAll (Candidate.admitted page.results)

inductive Cycle (L : Type) where
  | acquiring (mode : Mode)
  | counting (lease : L)
  /-- Is about to take the next page of its walk. -/
  | walking (lease : L) (gathered : Gathered) (walk : Source.Walk)
  | fetching (lease : L) (gathered : Gathered) (walk : Source.Walk) (fetch : Source.Fetch)
  /-- Waits before it asks the source again. -/
  | pausing (lease : L) (gathered : Gathered) (walk : Source.Walk) (fetch : Source.Fetch)
      (span : Span)
  /-- Waits for the store to write what was gathered. -/
  | storing (lease : L) (gathered : Gathered) (cutShort : Bool)
  | releasing (lease : L) (outcome : Outcome)

namespace Cycle

variable {L : Type}

inductive Step (L : Type) where
  | await (cycle : Cycle L)
  | ended (outcome : Outcome)

def start (replica : Replica) (mode : Mode) : Replica × Cycle L :=
  ({ replica with phase := .acquiring }, .acquiring mode)

def finish (replica : Replica) (outcome : Outcome) : Replica × Step L :=
  ({ replica with phase := outcome.phaseAfter, tally := replica.tally.add outcome },
    .ended outcome)

/-- The work under the lock is over. -/
def release (replica : Replica) (lease : L) (outcome : Outcome) : Replica × Step L :=
  ({ replica with phase := .releasing, freshness := replica.freshness.setInProgress false },
    .await (.releasing lease outcome))

def onLock (replica : Replica) (mode : Mode) (answer : Except StoreError (Option L)) :
    Replica × Step L :=
  match answer with
  | .error error => finish replica (.failed error.kind 0)
  | .ok none => finish replica .skipped
  | .ok (some lease) =>
    ({ replica with phase := .running, freshness := replica.freshness.setInProgress true },
      .await (match mode with
        | .seed => .counting lease
        | .refresh => .walking lease {} {}))

def onCount (replica : Replica) (lease : L) (answer : Except StoreError Nat) :
    Replica × Step L :=
  match answer with
  | .error error => release replica lease (.failed error.kind 0)
  | .ok count =>
    if 0 < count then release replica lease .skipped
    else (replica, .await (.walking lease {} {}))

/-- What a failure of the source leads to: without a page or by policy the cycle has failed, else it
goes on with what it has. -/
def cutShort (replica : Replica) (lease : L) (gathered : Gathered) (error : SourceError) :
    Replica × Step L :=
  if replica.policy = .abort ∨ gathered.pages = 0 then
    release replica lease (.failed error.kind gathered.kept.size)
  else (replica, .await (.storing lease gathered true))

def proceed (replica : Replica) (lease : L) (gathered : Gathered) (walk : Source.Walk)
    (next : Source.Client × Source.Fetch.Next) : Replica × Step L :=
  let replica := { replica with client := next.1 }
  match next.2 with
  | .ask fetch => (replica, .await (.fetching lease gathered walk fetch))
  | .pause span fetch => (replica, .await (.pausing lease gathered walk fetch span))
  | .done (.error error) => cutShort replica lease gathered error
  | .done (.ok page) =>
    (replica, .await (.walking lease (gathered.add page) (walk.advance (.ok page))))

def onWalk (replica : Replica) (lease : L) (gathered : Gathered) (walk : Source.Walk)
    (now : Instant) : Replica × Step L :=
  match walk.next with
  | none => (replica, .await (.storing lease gathered false))
  | some page => proceed replica lease gathered walk (replica.client.fetch page now)

def onPage (replica : Replica) (lease : L) (gathered : Gathered) (walk : Source.Walk)
    (fetch : Source.Fetch) (answer : Except SourceError SourcePage) (draw : Nat)
    (now : Instant) : Replica × Step L :=
  proceed replica lease gathered walk (replica.client.answer fetch answer draw now)

def onWake (replica : Replica) (lease : L) (gathered : Gathered) (walk : Source.Walk)
    (fetch : Source.Fetch) : Replica × Step L :=
  proceed replica lease gathered walk (replica.client.ask fetch)

def onUpsert (replica : Replica) (lease : L) (gathered : Gathered) (cutShort : Bool)
    (answer : Except StoreError Nat) (time : Timestamp) : Replica × Step L :=
  match answer with
  | .error error => release replica lease (.failed error.kind gathered.kept.size)
  | .ok upserted =>
    release
      { replica with pages := replica.pages.clear, freshness := replica.freshness.mark time }
      lease
      (.completed {
        pages := gathered.pages
        fetched := gathered.fetched
        kept := gathered.kept.size
        upserted := upserted
        cutShort := cutShort })

/-- The lock has been given up, or the attempt has failed; either way the cycle is over. -/
def onRelease (replica : Replica) (outcome : Outcome) : Replica × Step L := finish replica outcome

def lease? : Cycle L → Option L
  | acquiring _ => none
  | counting lease => some lease
  | walking lease .. => some lease
  | fetching lease .. => some lease
  | pausing lease .. => some lease
  | storing lease .. => some lease
  | releasing lease _ => some lease

/-- Stops a cycle where it waits. Its lease is to be given up; its phase stays as it is. -/
def cancel (replica : Replica) : Cycle L → Replica
  | acquiring _ => replica
  | releasing .. => replica
  | _ => { replica with freshness := replica.freshness.setInProgress false }

/-! A cycle step by step, whatever it is answered. -/

inductive Answer (L : Type) where
  | lock (answer : Except StoreError (Option L))
  | count (answer : Except StoreError Nat)
  /-- No answer: the walk goes on. -/
  | walk (now : Instant)
  | page (answer : Except SourceError SourcePage) (draw : Nat) (now : Instant)
  | woken
  | upsert (answer : Except StoreError Nat) (time : Timestamp)
  | released

def Answer.isWritten : Answer L → Bool
  | .upsert (.ok _) _ => true
  | _ => false

def take? (replica : Replica) : Cycle L → Answer L → Option (Replica × Step L)
  | .acquiring mode, .lock answer => some (onLock replica mode answer)
  | .counting lease, .count answer => some (onCount replica lease answer)
  | .walking lease gathered walk, .walk now => some (onWalk replica lease gathered walk now)
  | .fetching lease gathered walk fetch, .page answer draw now =>
    some (onPage replica lease gathered walk fetch answer draw now)
  | .pausing lease gathered walk fetch _, .woken =>
    some (onWake replica lease gathered walk fetch)
  | .storing lease gathered cutShort, .upsert answer time =>
    some (onUpsert replica lease gathered cutShort answer time)
  | .releasing _ outcome, .released => some (onRelease replica outcome)
  | _, _ => none

end Cycle

end Roster.Refresh
