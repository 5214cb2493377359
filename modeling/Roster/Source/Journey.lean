import Roster.Source.Stream

namespace Roster.Source

/-! What is seen of a walk from outside: the items that it is polled for, the pages that it fetches,
and the requests that are sent for them. -/

/-- What a source says to the first, the second request for each of its pages. -/
abbrev Script := UInt32 → Nat → Reply

inductive Action where
  | polled
  /-- The fetch of a page begins. -/
  | fetched (page : UInt32)
  /-- A request for a page is sent. -/
  | asked (fetch : Fetch)
  | yielded (page : SourcePage)
  | failed (error : SourceError)
  /-- There is nothing more. -/
  | ended
  deriving DecidableEq

namespace Action

def ofResult : Except SourceError SourcePage → Action
  | .ok page => yielded page
  | .error error => failed error

def ofNext : Fetch.Next → List Action
  | .ask fetch => [asked fetch]
  | .pause _ _ => []
  | .done result => [ofResult result]

def isAsked : Action → Bool
  | asked _ => true
  | _ => false

end Action

inductive Signal where
  /-- The next item is wanted. -/
  | poll (now : Instant)
  /-- What the walk waits for has come: an answer, or the end of a pause. -/
  | arrive
  /-- Others have used the client, and leave it like this. -/
  | others (client : Client)

/-- A walk, and what has been seen of it. -/
structure Journey where
  stream : Stream
  trace : List Action := []

namespace Journey

def proceed (journey : Journey) (walk : Walk) (next : Client × Fetch.Next) : Journey where
  stream := journey.stream.proceed walk next
  trace := journey.trace ++ Action.ofNext next.2

def note (journey : Journey) (actions : List Action) : Journey :=
  { journey with trace := journey.trace ++ actions }

/-- A poll that finds the walk waiting changes nothing, nor does an arrival that it does not wait
for. -/
def hear (script : Script) (journey : Journey) : Signal → Journey
  | .poll now =>
    match journey.stream.position with
    | .ready walk =>
      match walk.next with
      | some page =>
        (journey.note [.polled, .fetched page]).proceed walk (journey.stream.client.fetch page now)
      | none =>
        { stream := { journey.stream with position := .finished none }
          trace := journey.trace ++ [.polled, .ended] }
    | .finished _ => journey.note [.polled, .ended]
    | _ => journey
  | .arrive =>
    match journey.stream.position with
    | .asked walk fetch =>
      let reply := script fetch.page fetch.attempt
      journey.proceed walk (journey.stream.client.answer fetch reply.page reply.draw reply.now)
    | .paused walk fetch _ => journey.proceed walk (journey.stream.client.ask fetch)
    | _ => journey
  | .others client => { journey with stream := { journey.stream with client } }

/-- A walk after so many signals. -/
def after (script : Script) (client : Client) (signals : Nat → Signal) : Nat → Journey
  | 0 => { stream := { client } }
  | time + 1 => (after script client signals time).hear script (signals time)

end Journey

end Roster.Source
