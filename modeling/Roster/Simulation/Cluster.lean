import Roster.Refresh.Worker
import Roster.Simulation.Bench
import Roster.Simulation.FaultyStore
import Roster.Simulation.ScriptedSource
import Roster.Web.Handler

namespace Roster.Simulation.Cluster

/-! Replicas that share one store. Each has a source of its own; the page cache and the notes on
freshness may belong to several. -/

/-- What replicas can share. -/
structure Front where
  pages : PageCache
  freshness : Freshness

structure Member where
  name : String
  /-- The number of its front. -/
  front : Nat := 0
  client : Source.Client
  source : ScriptedSource
  policy : Refresh.PartialPolicy := .proceed
  phase : Refresh.Phase := .idle
  tally : Refresh.Tally := {}

structure World where
  store : FaultyStore
  fronts : List Front := []
  members : List Member := []
  /-- What workers have been told, by their numbers. -/
  signals : List Refresh.Signal := []
  registry : Metrics.Registry := {}
  /-- The calendar time, which stands still. -/
  time : Timestamp

namespace World

def replica? (world : World) (member : Nat) : Option Replica := do
  let m ← world.members[member]?
  let front ← world.fronts[m.front]?
  return {
    client := m.client
    pages := front.pages
    freshness := front.freshness
    policy := m.policy
    phase := m.phase
    tally := m.tally }

def put (world : World) (member : Nat) (replica : Replica) : World :=
  match world.members[member]? with
  | none => world
  | some m =>
    { world with
      members := world.members.set member
        { m with client := replica.client, phase := replica.phase, tally := replica.tally }
      fronts := world.fronts.set m.front ⟨replica.pages, replica.freshness⟩ }

def modifySource {α : Type} (world : World) (member : Nat) (fallback : α)
    (change : ScriptedSource → ScriptedSource × α) : World × α :=
  match world.members[member]? with
  | none => (world, fallback)
  | some m =>
    let (source, result) := change m.source
    ({ world with members := world.members.set member { m with source } }, result)

def told (world : World) (number : Nat) : Refresh.Signal := world.signals.getD number {}

def tell (world : World) (number : Nat) (signal : Refresh.Signal) : World :=
  { world with signals := world.signals.set number signal }

end World

inductive Job where
  | cycle (mode : Refresh.Mode)
  | list (query : Listing.Query)
  | request (request : Web.Request)
  | worker (signal : Nat) (interval : Span)

/-- Whom a page of the listing is for. -/
inductive Reader where
  | caller
  | client (request : Web.Request)

inductive Activity where
  | starting (job : Job)
  | cycle (cycle : Refresh.Cycle Lease)
  | listing (reader : Reader) (call : Listing.Call)
  | worker (signal : Nat) (worker : Refresh.Worker Lease)

/-- What a replica is doing. -/
structure Task where
  member : Nat
  activity : Activity

inductive Ticket where
  | flight (front : Nat) (ticket : Cache.Ticket)
  | signal (number : Nat)
  deriving DecidableEq

inductive Message where
  | flight (result : Option (Except StoreError Listing.Slice))
  | signal

inductive Result where
  | outcome (outcome : Refresh.Outcome)
  | page (result : Except Problem Listing.Page)
  | response (response : Web.Response)
  | tally (tally : Refresh.Tally)

abbrev ClusterTurn := Turn World Task Ticket Message Result

abbrev Mail := List (Ticket × Message)

def letters (front : Nat) (notices : List Listing.Call.Notice) : Mail :=
  notices.map fun notice => (.flight front notice.ticket, .flight notice.result)

/-! Cycles. -/

/-- When what a cycle waits for will have happened; what is asked of others is noted at once. -/
def beginWait (world : World) (member : Nat) (now : Instant) :
    Refresh.Cycle Lease → World × Instant
  | .acquiring _ => (world, ⟨now.nanos + world.store.lockDelay⟩)
  | .releasing .. => (world, ⟨now.nanos + world.store.lockDelay⟩)
  | .fetching _ _ _ fetch => world.modifySource member now fun source => source.receive fetch.page now
  | .pausing _ _ _ _ span => (world, ⟨now.nanos + span.nanos⟩)
  | _ => (world, now)

def giveUp (world : World) (member : Nat) (replica : Replica) (cycle : Refresh.Cycle Lease) :
    World :=
  let world := world.put member (cycle.cancel replica)
  match cycle.lease? with
  | some lease => { world with store := world.store.free lease }
  | none => world

/-- Lets what a cycle waits for happen and takes the cycle on, unless it comes to grief. -/
def endWait (world : World) (member : Nat) (replica : Replica) (now : Instant)
    (cycle : Refresh.Cycle Lease) : World × Option (Refresh.Cycle.Step Lease) :=
  let take (world : World) (step : Replica × Refresh.Cycle.Step Lease) :=
    (world.put member step.1, some step.2)
  match cycle with
  | .acquiring mode =>
    let (store, answer) := world.store.tryLock mode.lock
    take { world with store } (Refresh.Cycle.onLock replica mode answer)
  | .counting lease => take world (Refresh.Cycle.onCount replica lease world.store.count)
  | .walking lease gathered walk => take world (Refresh.Cycle.onWalk replica lease gathered walk now)
  | .fetching lease gathered walk fetch =>
    let (world, answer) := world.modifySource member
      (.error (.unavailable fetch.page 0 "")) fun source => source.answer fetch.page
    take world (Refresh.Cycle.onPage replica lease gathered walk fetch answer 0 now)
  | .pausing lease gathered walk fetch _ =>
    take world (Refresh.Cycle.onWake replica lease gathered walk fetch)
  | .storing lease gathered cutShort =>
    match world.store.upsert gathered.kept.rows with
    | (store, some answer) =>
      take { world with store }
        (Refresh.Cycle.onUpsert replica lease gathered cutShort answer world.time)
    | (store, none) => (giveUp { world with store } member replica cycle, none)
  | .releasing lease outcome =>
    take { world with store := world.store.free lease } (Refresh.Cycle.onRelease replica outcome)

def cycleTurn (world : World) (member : Nat) (now : Instant) (wrap : Refresh.Cycle Lease → Activity)
    (finish : World → Refresh.Outcome → ClusterTurn) :
    Option (Refresh.Cycle.Step Lease) → ClusterTurn
  | none => { world, pause := .crashed }
  | some (.ended outcome) => finish world outcome
  | some (.await cycle) =>
    let (world, due) := beginWait world member now cycle
    { world, pause := .suspended (some due) none ⟨member, wrap cycle⟩ }

/-! Listings and requests. -/

def answerRequest (world : World) (request : Web.Request) (response : Web.Response) : ClusterTurn where
  world := { world with registry := request.record response 0.0 world.registry }
  pause := .finished (.response (request.finish response))

def answerReader (world : World) (query : Listing.Query)
    (result : Except StoreError Listing.Slice) : Reader → ClusterTurn
  | .caller => { world, pause := .finished (.page (Listing.respond query result)) }
  | .client request =>
    answerRequest world request (Web.listingResponse (Listing.respond query result))

def listingTurn (world : World) (member front : Nat) (now : Instant) (reader : Reader)
    (query : Listing.Query) (mail : Mail) (step : Listing.Call.Step) : ClusterTurn :=
  match step with
  | .done result =>
    let turn := answerReader world query result reader
    { turn with mail := mail ++ turn.mail }
  | .await (.waiting query ticket) =>
    { world, mail
      pause := .suspended none (some (.flight front ticket))
        ⟨member, .listing reader (.waiting query ticket)⟩ }
  | .await (.loading query load) =>
    let (store, due) := world.store.receiveQuery now
    { world := { world with store }, mail
      pause := .suspended (some due) none ⟨member, .listing reader (.loading query load)⟩ }

def beginListing (world : World) (member front : Nat) (replica : Replica) (now : Instant)
    (reader : Reader) (query : Listing.Query) : ClusterTurn :=
  let (pages, step, notices) := Listing.Call.begin replica.pages query now
  listingTurn (world.put member { replica with pages }) member front now reader query
    (letters front notices) step

def beginRequest (world : World) (m : Member) (member : Nat) (replica : Replica) (now : Instant)
    (request : Web.Request) : ClusterTurn :=
  match request.task with
  | .respond response => answerRequest world request response
  | .list query => beginListing world member m.front replica now (.client request) query
  | .checkHealth =>
    let health := Web.health world.store.count m.source.reachable
      (replica.freshness.report world.time)
    let registry := world.registry.setHealth health.dbOk health.sourceOk
    answerRequest { world with registry } request (.json health.toJson)
  | .expose =>
    let registry := world.registry.sync replica world.time
    answerRequest { world with registry } request (.metrics registry.render)

/-! Workers. -/

def workerTurn (world : World) (member number : Nat) (replica : Replica) (now : Instant) :
    Refresh.Worker Lease → ClusterTurn
  | .stopped => { world, pause := .finished (.tally replica.tally) }
  | .waiting ticker =>
    let due := if (world.told number).isReady then now else ticker.next
    { world
      pause := .suspended (some due) (some (.signal number))
        ⟨member, .worker number (.waiting ticker)⟩ }
  | .refreshing ticker cycle =>
    let (world, due) := beginWait world member now cycle
    { world
      pause := .suspended (some due) none ⟨member, .worker number (.refreshing ticker cycle)⟩ }

/-- The event that a worker reacts to. It may choose either if two are at hand; here it reads what it
has been told first, but takes a tick before the end of all telling. -/
def choose? (ticker : Refresh.Ticker) (signal : Refresh.Signal) (now : Instant) :
    Option Refresh.Worker.Event :=
  match Refresh.Worker.ready ticker signal now with
  | [_, _] => some (if signal.unread then .signal else .tick)
  | events => events.head?

def resumeWorker (world : World) (member number : Nat) (replica : Replica) (now : Instant) :
    Refresh.Worker Lease → ClusterTurn
  | .stopped => workerTurn world member number replica now .stopped
  | .waiting ticker =>
    let signal := world.told number
    match choose? ticker signal now with
    | none => workerTurn world member number replica now (.waiting ticker)
    | some event =>
      let (replica, signal, worker) := Refresh.Worker.react replica ticker signal now event
      workerTurn ((world.put member replica).tell number signal) member number replica now worker
  | .refreshing ticker cycle =>
    let (world, step) := endWait world member replica now cycle
    match step, world.replica? member with
    | some step, some replica =>
      workerTurn world member number replica now (Refresh.Worker.after ticker step)
    | _, _ => { world, pause := .crashed }

/-! Tasks. -/

def begin (world : World) (m : Member) (member : Nat) (replica : Replica) (now : Instant) :
    Job → ClusterTurn
  | .cycle mode =>
    let (replica, cycle) := Refresh.Cycle.start replica mode
    let (world, due) := beginWait (world.put member replica) member now cycle
    { world, pause := .suspended (some due) none ⟨member, .cycle cycle⟩ }
  | .list query => beginListing world member m.front replica now .caller query
  | .request request => beginRequest world m member replica now request
  | .worker number interval =>
    match Refresh.Worker.start now interval with
    | some worker => workerTurn world member number replica now worker
    | none => { world, pause := .crashed }

def resume (world : World) (now : Instant) (task : Task) (wake : Wake Message) : ClusterTurn :=
  match world.members[task.member]?, world.replica? task.member with
  | some m, some replica =>
    match task.activity with
    | .starting job => begin world m task.member replica now job
    | .cycle cycle =>
      let (world, step) := endWait world task.member replica now cycle
      cycleTurn world task.member now .cycle
        (fun world outcome => { world, pause := .finished (.outcome outcome) }) step
    | .listing reader (.waiting query _) =>
      let result :=
        match wake with
        | .mail (.flight result) => result
        | _ => none
      listingTurn world task.member m.front now reader query [] (Listing.Call.onNotice query result)
    | .listing reader (.loading query load) =>
      let (pages, step, notices) :=
        Listing.Call.onAnswer replica.pages load (world.store.query query) now
      listingTurn (world.put task.member { replica with pages }) task.member m.front now reader
        query (letters m.front notices) step
    | .worker number worker => resumeWorker world task.member number replica now worker
  | _, _ => { world, pause := .crashed }

def cancel (world : World) (task : Task) : World × Mail :=
  match world.members[task.member]?, world.replica? task.member with
  | some m, some replica =>
    match task.activity with
    | .cycle cycle => (giveUp world task.member replica cycle, [])
    | .worker _ (.refreshing _ cycle) => (giveUp world task.member replica cycle, [])
    | .listing _ call =>
      let (pages, notices) := call.cancel replica.pages
      (world.put task.member { replica with pages }, letters m.front notices)
    | .starting _ => (world, [])
    | .worker _ (.waiting _) => (world, [])
    | .worker _ .stopped => (world, [])
  | _, _ => (world, [])

def behaviour : Behaviour World Task Ticket Message Result := ⟨resume, cancel⟩

end Roster.Simulation.Cluster
