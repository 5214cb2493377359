import Roster.Deployment
import Roster.Web.Handler

namespace Roster

namespace Reader

/-- What a reader has come to, with the page cache and the notices to others. -/
abbrev Reaction := PageCache × List Listing.Call.Notice × Reader

def Reaction.ofStep (stepped : PageCache × Listing.Call.Step × List Listing.Call.Notice) : Reaction :=
  (stepped.1, stepped.2.2, .ofStep stepped.2.1)

end Reader

namespace Web

/-! A service that answers requests. -/

inductive Visit.Stage where
  | entered
  /-- Lists through the page cache. -/
  | listing (query : Listing.Query) (reader : Reader)
  /-- Waits for the count of the store and the probe of the source. -/
  | checking
  | answered (response : Response)
  | stopped

structure Visit where
  request : Request
  stage : Visit.Stage := .entered

def Visit.hear (notices : List Listing.Call.Notice) (visit : Visit) : Visit :=
  match visit.stage with
  | .listing query reader => { visit with stage := .listing query (reader.hear notices) }
  | _ => visit

structure Front where
  replica : Replica
  registry : Metrics.Registry := {}
  /-- In the order in which they came. -/
  visits : List Visit := []

namespace Front

/-- Moments, answers of the store and of the source, and what else becomes of the replica are those
of the run. -/
inductive Event where
  | enter (request : Request) (now : Instant) (time : Timestamp) (seconds : Float)
  /-- Something happens to the reader of a visit; the store looks up its pages like this. -/
  | read (visit : Nat) (look : Listing.Query → Listing.Slice) (event : Reader.Event)
      (seconds : Float)
  | check (visit : Nat) (count : Except StoreError Nat) (sourceOk : Bool) (time : Timestamp)
      (seconds : Float)
  | stop (visit : Nat)
  | elsewhere (change : Replica → Replica)

def setPages (front : Front) (pages : PageCache) : Front :=
  { front with replica := { front.replica with pages } }

def setRegistry (front : Front) (registry : Metrics.Registry) : Front := { front with registry }

def put (front : Front) (id : Nat) (stage : Visit.Stage) : Front :=
  { front with visits := front.visits.modify id ({ · with stage }) }

/-- Sends the answer to a request and records it. -/
def answer (front : Front) (id : Nat) (response : Response) (seconds : Float) : Front :=
  match front.visits[id]? with
  | some visit =>
    (front.put id (.answered (visit.request.finish response))).setRegistry
      (visit.request.record response seconds front.registry)
  | none => front

/-- Tells the readers of the flights that have ended. -/
def tell (front : Front) (notices : List Listing.Call.Notice) : Front :=
  { front with visits := front.visits.map (·.hear notices) }

def settle (front : Front) (id : Nat) (query : Listing.Query) (seconds : Float) : Reader → Front
  | .returned result => front.answer id (listingResponse (Listing.respond query result)) seconds
  | .stopped => front.put id .stopped
  | reader => front.put id (.listing query reader)

/-- Goes on with a visit whose reader has gone on. -/
def heed (front : Front) (id : Nat) (query : Listing.Query) (seconds : Float)
    (reaction : Reader.Reaction) : Front :=
  ((front.setPages reaction.1).tell reaction.2.1).settle id query seconds reaction.2.2

def enter (front : Front) (request : Request) : Front :=
  { front with visits := front.visits ++ [⟨request, .entered⟩] }

/-- Does for a visit what can be done at once. -/
def begin (front : Front) (id : Nat) (request : Request) (now : Instant) (time : Timestamp)
    (seconds : Float) : Front :=
  match request.task with
  | .respond response => front.answer id response seconds
  | .list query =>
    front.heed id query seconds (.ofStep (Listing.Call.begin front.replica.pages query now))
  | .checkHealth => front.put id .checking
  | .expose =>
    let registry := front.registry.sync front.replica time
    (front.setRegistry registry).answer id (.metrics registry.render) seconds

def step (front : Front) : Event → Front
  | .enter request now time seconds =>
    (front.enter request).begin front.visits.length request now time seconds
  | .read id look event seconds =>
    match front.visits[id]?.map Visit.stage with
    | some (.listing query reader) =>
      match reader.react front.replica.pages look event with
      | some reaction => front.heed id query seconds reaction
      | none => front
    | _ => front
  | .check id count sourceOk time seconds =>
    match front.visits[id]?.map Visit.stage with
    | some .checking =>
      let health := health count sourceOk (front.replica.freshness.report time)
      (front.setRegistry (front.registry.setHealth health.dbOk health.sourceOk)).answer id
        (.json health.toJson) seconds
    | _ => front
  | .stop id =>
    match front.visits[id]?.map Visit.stage with
    | some .checking => front.put id .stopped
    | _ => front
  | .elsewhere change => { front with replica := change front.replica }

def run (front : Front) (events : List Event) : Front := events.foldl step front

/-- What the clients have been given, by their requests; nothing yet to those that wait. -/
def responses (front : Front) : List (Option Response) :=
  front.visits.map fun visit =>
    match visit.stage with
    | .answered response => some response
    | _ => none

end Front

end Web

end Roster
