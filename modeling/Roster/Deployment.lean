import Roster.Listing.Service
import Roster.Refresh.Cycle
import Roster.Store.Memory

namespace Roster

/-! A store with a page cache in front of it, the calls that list through the cache, and the cycles
that write to the store. Whatever one of them does between two waits is one step. In between the
store looks up the page for a call, or an upsert takes effect, at an instant of its own choosing. -/

structure Backend (σ : Type) where
  query : σ → Listing.Query → Listing.Slice
  write : σ → List Character → σ

def Backend.memory : Backend Store.Memory where
  query := Store.Memory.query
  write store rows := (store.upsert rows).1

inductive Reader where
  | waiting (query : Listing.Query) (ticket : Cache.Ticket)
  /-- Has been told of the end of its flight and has not gone on yet. -/
  | told (query : Listing.Query) (notice : Option (Except StoreError Listing.Slice))
  /-- Waits for the store, which may have looked up its page already. -/
  | loading (query : Listing.Query) (load : Cache.Coalescing.Call Listing.Query)
      (found? : Option Listing.Slice)
  | returned (result : Except StoreError Listing.Slice)
  | stopped

namespace Reader

def ofStep : Listing.Call.Step → Reader
  | .await (.waiting query ticket) => .waiting query ticket
  | .await (.loading query load) => .loading query load none
  | .done result => .returned result

inductive Event where
  | look
  | answer (now : Instant)
  | fail (error : StoreError) (now : Instant)
  | resume
  | stop

/-- What an event does to a reader and to the page cache, if it is possible. -/
def react (pages : PageCache) (look : Listing.Query → Listing.Slice) :
    Reader → Event → Option (PageCache × List Listing.Call.Notice × Reader)
  | .loading query load _, .look => some (pages, [], .loading query load (some (look query)))
  | .loading _ load (some slice), .answer now =>
    let (pages, step, notices) := Listing.Call.onAnswer pages load (.ok slice) now
    some (pages, notices, .ofStep step)
  | .loading _ load _, .fail error now =>
    let (pages, step, notices) := Listing.Call.onAnswer pages load (.error error) now
    some (pages, notices, .ofStep step)
  | .told query notice, .resume =>
    some (pages, [], .ofStep (Listing.Call.onNotice query notice))
  | .waiting query ticket, .stop =>
    let (pages, notices) := Listing.Call.cancel pages (.waiting query ticket)
    some (pages, notices, .stopped)
  | .loading query load _, .stop =>
    let (pages, notices) := Listing.Call.cancel pages (.loading query load)
    some (pages, notices, .stopped)
  | .told .., .stop => some (pages, [], .stopped)
  | _, _ => none

def hear (notices : List Listing.Call.Notice) : Reader → Reader
  | .waiting query ticket =>
    match notices.find? fun notice => notice.ticket = ticket with
    | some notice => .told query notice.result
    | none => .waiting query ticket
  | reader => reader

end Reader

/-- A refresh cycle, or one that fills an empty store, and its coordinator. -/
structure Writer (L : Type) where
  coordinator : Nat
  /-- Where the cycle stands, unless it has ended or was stopped. -/
  cycle? : Option (Refresh.Cycle L)
  /-- What it has sent to the store and has not taken effect. -/
  unwritten? : Option (List Character) := none
  written : Bool := false
  /-- Whether it has emptied the page cache after its upsert. -/
  cleared : Bool := false

namespace Writer

variable {L : Type}

def advance (writer : Writer L) (answer : Refresh.Cycle.Answer L)
    (step : Refresh.Cycle.Step L) : Writer L :=
  let writer := { writer with cleared := writer.cleared || answer.isWritten }
  match step with
  | .await (.storing lease gathered cutShort) =>
    { writer with
      cycle? := some (.storing lease gathered cutShort)
      unwritten? := some gathered.kept.rows }
  | .await cycle => { writer with cycle? := some cycle }
  | .ended _ => { writer with cycle? := none }

/-- The cycle that an answer reaches. It is told that the store has written only if it has. -/
def heed? (writer : Writer L) (answer : Refresh.Cycle.Answer L) : Option (Refresh.Cycle L) :=
  if answer.isWritten && !writer.written then none else writer.cycle?

end Writer

structure Deployment (σ L : Type) where
  contents : σ
  pages : PageCache
  /-- They share the page cache; each uses it in place of its own. -/
  coordinators : List Replica := []
  readers : List Reader := []
  writers : List (Writer L) := []

namespace Deployment

variable {σ L : Type}

inductive Event (L : Type) where
  | list (query : Listing.Query) (now : Instant)
  | read (reader : Nat) (event : Reader.Event)
  | cycle (coordinator : Nat) (mode : Refresh.Mode)
  | reply (writer : Nat) (answer : Refresh.Cycle.Answer L)
  | commit (writer : Nat)
  | stop (writer : Nat)
  | poison

def write (deployment : Deployment σ L) (id : Nat) (writer : Writer L) (replica : Replica) :
    Deployment σ L :=
  { deployment with
    pages := replica.pages
    coordinators := deployment.coordinators.set writer.coordinator replica
    writers := deployment.writers.set id writer }

def coordinator? (deployment : Deployment σ L) (place : Nat) : Option Replica :=
  (deployment.coordinators[place]?).map ({ · with pages := deployment.pages })

def step? (backend : Backend σ) (deployment : Deployment σ L) :
    Event L → Option (Deployment σ L)
  | .list query now =>
    let (pages, step, notices) := Listing.Call.begin deployment.pages query now
    some { deployment with
      pages
      readers := deployment.readers.map (·.hear notices) ++ [.ofStep step] }
  | .read id event => do
    let reader ← deployment.readers[id]?
    let (pages, notices, reader) ←
      reader.react deployment.pages (backend.query deployment.contents) event
    some { deployment with
      pages
      readers := (deployment.readers.map (·.hear notices)).set id reader }
  | .cycle place mode => do
    let replica ← deployment.coordinator? place
    let (replica, cycle) := Refresh.Cycle.start replica mode
    some { deployment with
      pages := replica.pages
      coordinators := deployment.coordinators.set place replica
      writers := deployment.writers ++ [{ coordinator := place, cycle? := some cycle }] }
  | .reply id answer => do
    let writer ← deployment.writers[id]?
    let cycle ← writer.heed? answer
    let replica ← deployment.coordinator? writer.coordinator
    let (replica, step) ← cycle.take? replica answer
    deployment.write id (writer.advance answer step) replica
  | .commit id => do
    let writer ← deployment.writers[id]?
    let rows ← writer.unwritten?
    some { deployment with
      contents := backend.write deployment.contents rows
      writers := deployment.writers.set id { writer with unwritten? := none, written := true } }
  | .stop id => do
    let writer ← deployment.writers[id]?
    let cycle ← writer.cycle?
    let replica ← deployment.coordinator? writer.coordinator
    deployment.write id { writer with cycle? := none } (Refresh.Cycle.cancel replica cycle)
  | .poison => some { deployment with pages := deployment.pages.poison }

def step (backend : Backend σ) (deployment : Deployment σ L) (event : Event L) : Deployment σ L :=
  (deployment.step? backend event).getD deployment

def run (backend : Backend σ) (deployment : Deployment σ L) (events : List (Event L)) :
    Deployment σ L :=
  events.foldl (step backend) deployment

def start (contents : σ) (capacity : Nat) (ttl : Span) (coordinators : List Replica) :
    Deployment σ L :=
  { contents, pages := .new "page" capacity ttl, coordinators }

/-- Every upsert that has taken effect has been followed by the clear of its cycle. -/
def Settled (deployment : Deployment σ L) : Prop :=
  ∀ writer ∈ deployment.writers, writer.written → writer.cleared

end Deployment

end Roster
