import Roster.Refresh.Cycle

namespace Roster.Refresh

/-! A coordinator that makes one call after the other. Whatever a call does between two waits is one
step, so what is said of a coordinator here holds where its call waits, and between calls. -/

variable {L : Type}

/-- Where the call stands that was made last. -/
inductive Standing (L : Type) where
  | fresh
  | running (cycle : Cycle L)
  | returned (outcome : Outcome)
  /-- It was cancelled where it waited, or what it waited for panicked. -/
  | stopped (cycle : Cycle L)

namespace Standing

def ofStep : Cycle.Step L → Standing L
  | .await cycle => running cycle
  | .ended outcome => returned outcome

def isAlive : Standing L → Bool
  | running _ => true
  | _ => false

end Standing

structure Tenure (L : Type) where
  replica : Replica
  standing : Standing L := .fresh

namespace Tenure

inductive Event (L : Type) where
  /-- Calls come one after the other: there is none while another goes on. -/
  | call (mode : Mode)
  | answer (answer : Cycle.Answer L)
  | stop
  /-- Others change what they share with the coordinator. -/
  | meanwhile (pages : PageCache) (lastMillis : Option Int)

def step (tenure : Tenure L) : Event L → Tenure L
  | .call mode =>
    if tenure.standing.isAlive then tenure
    else
      let (replica, cycle) := Cycle.start tenure.replica mode
      { replica, standing := .running cycle }
  | .answer answer =>
    match tenure.standing with
    | .running cycle =>
      match cycle.take? tenure.replica answer with
      | some (replica, step) => { replica, standing := .ofStep step }
      | none => tenure
    | _ => tenure
  | .stop =>
    match tenure.standing with
    | .running cycle => { replica := cycle.cancel tenure.replica, standing := .stopped cycle }
    | _ => tenure
  | .meanwhile pages lastMillis =>
    { tenure with
      replica := { tenure.replica with
        pages
        freshness := { tenure.replica.freshness with lastMillis } } }

def run (tenure : Tenure L) (events : List (Event L)) : Tenure L := events.foldl step tenure

def start (client : Source.Client) (pages : PageCache) (ttl : Span) (policy : PartialPolicy) :
    Tenure L where
  replica := { client, pages, freshness := { ttl }, policy }

end Tenure

end Roster.Refresh
