import Roster.Source.Client
import Roster.Source.Walk

namespace Roster.Source

/-! A walk together with the client that fetches its pages. It goes on by whatever it is answered:
what the source says, what the clock shows, and what is drawn for the jitter of a wait. -/

structure Reply where
  now : Instant
  draw : Nat
  page : Except SourceError SourcePage

inductive Position where
  /-- Is about to take the next page. -/
  | ready (walk : Walk)
  | asked (walk : Walk) (fetch : Fetch)
  | paused (walk : Walk) (fetch : Fetch) (span : Span)
  | finished (failure? : Option SourceError)

structure Stream where
  client : Client
  yielded : List SourcePage := []
  position : Position := .ready {}

namespace Stream

def proceed (stream : Stream) (walk : Walk) (next : Client × Fetch.Next) : Stream :=
  match next with
  | (client, .ask fetch) => { stream with client, position := .asked walk fetch }
  | (client, .pause span fetch) => { stream with client, position := .paused walk fetch span }
  | (client, .done (.error error)) => { stream with client, position := .finished (some error) }
  | (client, .done (.ok page)) =>
    { client, yielded := stream.yielded ++ [page], position := .ready (walk.advance (.ok page)) }

def step (stream : Stream) (reply : Reply) : Stream :=
  match stream.position with
  | .ready walk =>
    match walk.next with
    | none => { stream with position := .finished none }
    | some page => stream.proceed walk (stream.client.fetch page reply.now)
  | .asked walk fetch =>
    stream.proceed walk (stream.client.answer fetch reply.page reply.draw reply.now)
  | .paused walk fetch _ => stream.proceed walk (stream.client.ask fetch)
  | .finished _ => stream

/-- The stream after so many steps. -/
def after (stream : Stream) (script : Nat → Reply) : Nat → Stream
  | 0 => stream
  | steps + 1 => (stream.after script steps).step (script steps)

end Stream

end Roster.Source
