import Roster.Refresh.Cycle
import Roster.Refresh.Worker
import Roster.Startup

namespace Roster.Refresh

/-! A replica on duty: it fills the store if it is empty, and after that its worker runs a cycle at
each tick until it is told to stop. Between any two steps as much time passes as likes to, the store
and the source answer what they like, and others may change what they share with the replica. All
pages that are put into the memory of the client, and all that are taken from there, are noted. -/

namespace Cycle

variable {L : Type}

/-- An answer as it comes in at this moment. -/
def Answer.at (answer : Answer L) (now : Instant) : Answer L :=
  match answer with
  | .walk _ => .walk now
  | .page result draw _ => .page result draw now
  | other => other

/-- How long a cycle waits, at the least, before it goes on. -/
def rest : Cycle L → Span
  | .pausing _ _ _ _ span => span
  | _ => .zero

/-- What a step does with the memory of the client. -/
inductive Usage where
  | looks (page : UInt32) (now : Instant)
  | keeps (page : UInt32) (content : SourcePage) (now : Instant)
  | idle

def usage : Cycle L → Answer L → Usage
  | .walking _ _ ⟨some page⟩, .walk now => .looks page now
  | .fetching _ _ _ fetch, .page (.ok content) _ now => .keeps fetch.page content now
  | _, _ => .idle

def Usage.apply (memo : Cache.Memo UInt32 SourcePage) : Usage → Cache.Memo UInt32 SourcePage
  | looks page now => (memo.look page now).1
  | keeps page content now => memo.keep page content now
  | idle => memo

end Cycle

/-- A page that a cycle has fetched and put into memory. Cycles are counted, and the one that fills
an empty store is number zero. -/
structure Deposit where
  page : UInt32
  content : SourcePage
  cycle : Nat
  made : Instant
  /-- The tick that the worker waits for next. -/
  due : Instant

/-- A page that a cycle has taken from memory, and the last deposit under its number. -/
structure Serving where
  page : UInt32
  content : SourcePage
  cycle : Nat
  moment : Instant
  source : Option Deposit

inductive Post (L : Type) where
  | seeding (cycle : Cycle L)
  /-- The store has been seen to, and the worker has not started. -/
  | seeded
  | working (worker : Worker L)

namespace Post

variable {L : Type}

def cycle? : Post L → Option (Cycle L)
  | seeding cycle => some cycle
  | working (.refreshing _ cycle) => some cycle
  | _ => none

/-- Goes on after a step of the cycle that is under way. -/
def after : Post L → Cycle.Step L → Post L
  | seeding _, .await cycle => seeding cycle
  | seeding _, .ended _ => seeded
  | working (.refreshing ticker _), step => working (Worker.after ticker step)
  | post, _ => post

def ticker? : Post L → Option Ticker
  | working (.waiting ticker) => some ticker
  | working (.refreshing ticker _) => some ticker
  | _ => none

end Post

structure Duty (L : Type) where
  settings : Settings
  replica : Replica
  now : Instant
  post : Post L
  signal : Signal := {}
  /-- Cycles that the worker has begun. -/
  begun : Nat := 0
  /-- The latest comes first. -/
  deposits : List Deposit := []
  servings : List Serving := []

namespace Duty

variable {L : Type}

def start (settings : Settings) (now : Instant) : Duty L :=
  let (replica, cycle) := Cycle.start (Startup.replica settings) .seed
  { settings, replica, now, post := .seeding cycle }

inductive Event (L : Type) where
  | pass (nanos : Nat)
  | answer (answer : Cycle.Answer L)
  /-- The worker starts, unless it is not wanted. -/
  | enlist
  /-- The worker chooses among what it can react to. -/
  | react (event : Worker.Event)
  | tell (stop : Bool)
  | hangUp
  /-- Others change what they share with the replica. -/
  | share (pages : PageCache) (freshness : Freshness)

/-- The tick that comes next. Before the worker starts that is one interval away at the least. -/
def due (duty : Duty L) : Instant :=
  match duty.post.ticker? with
  | some ticker => ticker.next
  | none => ⟨duty.now.nanos + duty.settings.refresh.interval.nanos⟩

def last? (duty : Duty L) (page : UInt32) : Option Deposit :=
  duty.deposits.find? (·.page == page)

/-- Notes what becomes of the memory of the client. -/
def note (duty : Duty L) : Cycle.Usage → Duty L
  | .looks page now =>
    match (duty.replica.client.memo.look page now).2 with
    | some content =>
      let serving := ⟨page, content, duty.begun, now, duty.last? page⟩
      { duty with servings := serving :: duty.servings }
    | none => duty
  | .keeps page content now =>
    { duty with deposits := ⟨page, content, duty.begun, now, duty.due⟩ :: duty.deposits }
  | .idle => duty

/-- Takes the cycle that is under way on, if that is what it waits for. -/
def proceed (duty : Duty L) (cycle : Cycle L) (answer : Cycle.Answer L) : Duty L :=
  match cycle.take? duty.replica answer with
  | some (replica, step) =>
    { duty.note (cycle.usage answer) with replica, post := duty.post.after step }
  | none => duty

def wait (duty : Duty L) (nanos : Nat) : Duty L :=
  { duty with now := ⟨duty.now.nanos + nanos⟩ }

def react (duty : Duty L) (ticker : Ticker) (event : Worker.Event) : Duty L :=
  let (replica, signal, worker) :=
    Worker.react duty.replica ticker duty.signal duty.now event
  { duty with
    replica
    signal
    post := .working worker
    begun := if event = .tick then duty.begun + 1 else duty.begun }

def step (duty : Duty L) : Event L → Duty L
  | .pass nanos => duty.wait nanos
  | .answer answer =>
    match duty.post.cycle? with
    | some cycle =>
      let duty := duty.wait cycle.rest.nanos
      duty.proceed cycle (answer.at duty.now)
    | none => duty
  | .enlist =>
    match duty.post, Worker.start duty.now duty.settings.refresh.interval with
    | .seeded, some worker =>
      if duty.settings.refresh.enabled then { duty with post := .working worker } else duty
    | _, _ => duty
  | .react event =>
    match duty.post with
    | .working (.waiting ticker) =>
      if event ∈ Worker.ready ticker duty.signal duty.now then duty.react ticker event else duty
    | _ => duty
  | .tell stop => { duty with signal := duty.signal.send stop }
  | .hangUp => { duty with signal := duty.signal.close }
  | .share pages freshness => { duty with replica := { duty.replica with pages, freshness } }

def run (duty : Duty L) (events : List (Event L)) : Duty L := events.foldl step duty

end Duty

end Roster.Refresh
