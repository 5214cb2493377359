import Roster.Cache.Coalescing
import Roster.Cache.Memo
import Roster.Simulation.Bench

namespace Roster.Simulation

/-! Calls of caches with made-up loaders. -/

/-- What a loader does in the end. -/
inductive LoadOutcome where
  | gives (result : Except String Int)
  | fails

structure LoadRequest where
  key : String
  delay : Nat
  outcome : LoadOutcome

structure LoadResult where
  result : Except String Int
  ranLoader : Bool

namespace CoalescingTrial

structure World where
  cache : Cache.Coalescing String Int
  loads : Nat := 0

namespace World

def clear (world : World) : World := { world with cache := world.cache.clear }

def poison (world : World) : World := { world with cache := world.cache.poison }

end World

inductive Task where
  | starting (request : LoadRequest)
  | waiting (request : LoadRequest)
  | loading (request : LoadRequest) (call : Cache.Coalescing.Call String)

abbrev Message := Option (Except String Int)

abbrev TrialTurn := Turn World Task Cache.Ticket Message LoadResult

def letters (notices : List (Cache.Notice Int String)) : List (Cache.Ticket × Message) :=
  notices.map fun notice => (notice.ticket, notice.result)

def load (world : World) (now : Instant) (request : LoadRequest)
    (call : Cache.Coalescing.Call String) : TrialTurn where
  world := { world with loads := world.loads + 1 }
  pause := .suspended (some ⟨now.nanos + request.delay * 1000000⟩) none (.loading request call)

def resume (world : World) (now : Instant) (task : Task) (wake : Wake Message) : TrialTurn :=
  match task, wake with
  | .starting request, _ =>
    let (cache, begun, notices) := world.cache.begin request.key now (E := String)
    let world := { world with cache }
    match begun with
    | .hit value => { world, mail := letters notices, pause := .finished ⟨.ok value, false⟩ }
    | .pending (.waiting ticket) =>
      { world, pause := .suspended none (some ticket) (.waiting request) }
    | .pending call => load world now request call
  | .waiting _, .mail (some result) => { world, pause := .finished ⟨result, false⟩ }
  | .waiting request, _ => load world now request .direct
  | .loading request call, _ =>
    match request.outcome with
    | .gives result =>
      let (cache, notices) := world.cache.finish call result now
      { world := { world with cache }, mail := letters notices
        pause := .finished ⟨result, true⟩ }
    | .fails =>
      let (cache, notices) := world.cache.abandon call
      { world := { world with cache }, mail := letters notices, pause := .crashed }

def cancel (world : World) (task : Task) : World × List (Cache.Ticket × Message) :=
  match task with
  | .loading _ call =>
    let (cache, notices) := world.cache.abandon call
    ({ world with cache }, letters notices)
  | .starting _ => (world, [])
  | .waiting _ => (world, [])

def behaviour : Behaviour World Task Cache.Ticket Message LoadResult := ⟨resume, cancel⟩

end CoalescingTrial

namespace MemoTrial

structure World where
  cache : Cache.Memo String Int
  loads : Nat := 0

namespace World

def clear (world : World) : World := { world with cache := world.cache.clear }

def poison (world : World) : World := { world with cache := world.cache.poison }

end World

inductive Task where
  | starting (request : LoadRequest)
  | loading (request : LoadRequest)

def resume (world : World) (now : Instant) (task : Task) (_ : Wake Unit) :
    Turn World Task Unit Unit LoadResult :=
  match task with
  | .starting request =>
    let (cache, found) := world.cache.look request.key now
    match found with
    | some value => { world := { world with cache }, pause := .finished ⟨.ok value, false⟩ }
    | none =>
      { world := { world with cache, loads := world.loads + 1 }
        pause := .suspended (some ⟨now.nanos + request.delay * 1000000⟩) none (.loading request) }
  | .loading request =>
    match request.outcome with
    | .gives (.ok value) =>
      { world := { world with cache := world.cache.keep request.key value now }
        pause := .finished ⟨.ok value, true⟩ }
    | .gives (.error reason) => { world, pause := .finished ⟨.error reason, true⟩ }
    | .fails => { world, pause := .crashed }

def behaviour : Behaviour World Task Unit Unit LoadResult :=
  ⟨resume, fun world _ => (world, [])⟩

end MemoTrial

end Roster.Simulation
