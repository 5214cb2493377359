import Mathlib.Control.Monad.Basic
import Roster.Settings
import Roster.Source.Stream

namespace Roster.Source

/-! Pages that are pursued by one client side by side, each until its attempts have come to an end.
Every pursuit has a sequence of replies of its own, one for each request that it may send; what
becomes of it hangs on these alone, whatever the others do in between. -/

inductive Pursuit.Stage where
  | asked (fetch : Fetch)
  | paused (fetch : Fetch)
  | ended (result : Except SourceError SourcePage)
  | stopped
  deriving DecidableEq

/-- A page that is not remembered, the requests that were sent for it, and the pauses so far. -/
structure Pursuit where
  page : UInt32
  calls : Nat := 1
  pauses : List Span := []
  stage : Pursuit.Stage
  deriving DecidableEq

structure Bureau where
  client : Client
  /-- In the order in which they began. -/
  pursuits : List Pursuit := []

namespace Pursuit

/-- Goes on to what comes next. -/
def proceed (pursuit : Pursuit) : Fetch.Next → Pursuit
  | .ask fetch => { pursuit with calls := pursuit.calls + 1, stage := .asked fetch }
  | .pause span fetch =>
    { pursuit with pauses := pursuit.pauses ++ [span], stage := .paused fetch }
  | .done result => { pursuit with stage := .ended result }

/-- What follows when that happens which a pursuit waits for: its answer comes, or its pause is
over. -/
def next? (client : Client) (replies : Nat → Reply) (pursuit : Pursuit) :
    Option (Client × Fetch.Next) :=
  match pursuit.stage with
  | .asked fetch =>
    let reply := replies pursuit.calls
    some (client.answer fetch reply.page reply.draw reply.now)
  | .paused fetch => some (client.ask fetch)
  | .ended _ => none
  | .stopped => none

def stop (pursuit : Pursuit) : Pursuit :=
  match pursuit.stage with
  | .ended _ => pursuit
  | _ => { pursuit with stage := .stopped }

end Pursuit

namespace Bureau

inductive Event where
  | begin (page : UInt32) (now : Instant)
  | advance (pursuit : Nat)
  | stop (pursuit : Nat)
  /-- What the client remembers is spoilt. -/
  | poison

/-- The replies are those to the first, the second request of each pursuit, and so on. -/
def step (script : Nat → Nat → Reply) (bureau : Bureau) : Event → Bureau
  | .begin page now =>
    match bureau.client.fetch page now with
    | (client, .ask fetch) =>
      { client, pursuits := bureau.pursuits ++ [{ page, stage := .asked fetch }] }
    | (client, _) => { bureau with client }
  | .advance id =>
    match bureau.pursuits[id]? with
    | some pursuit =>
      match pursuit.next? bureau.client (script id) with
      | some (client, next) =>
        { client, pursuits := bureau.pursuits.set id (pursuit.proceed next) }
      | none => bureau
    | none => bureau
  | .stop id =>
    match bureau.pursuits[id]? with
    | some pursuit => { bureau with pursuits := bureau.pursuits.set id pursuit.stop }
    | none => bureau
  | .poison => { bureau with client := { bureau.client with memo := bureau.client.memo.poison } }

def run (script : Nat → Nat → Reply) (bureau : Bureau) (events : List Event) : Bureau :=
  events.foldl (step script) bureau

def start (settings : Settings.Source) : Bureau where
  client := .new settings.cacheMax settings.cacheTtl settings.retryPolicy

end Bureau

end Roster.Source
