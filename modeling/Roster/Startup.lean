import Roster.Database.Store
import Roster.Refresh.Run
import Roster.Settings.Telemetry
import Roster.Source.Http
import Roster.Store.Wait
import Roster.Text.Quoted

namespace Roster

/-! How the service comes up: it reads its settings, waits for the database if it is told to, creates
the schema, and fills an empty store. The first failure before that is final; a store that could not
be filled does not keep the service from serving. -/

namespace Startup

variable {σ : Type}

/-- The world around the service: the database, and what becomes of requests to the source. -/
structure World (σ : Type) where
  server : Database.Server σ
  exchange : Source.Http.Exchange → Source.Http.Reply

/-- The settings, and the pool of sessions that they ask for. -/
def configure (env : Settings.Environment) : Except Problem (Settings × Database.Pool) := do
  Settings.Telemetry.start false
  let settings ← (Settings.ofEnvironment env).mapError .ofSettingsError
  return (settings, ← Database.Pool.ofSettings settings.database)

/-- Pings the database until it answers, if the settings say so. -/
def awaitDatabase (world : World σ) (settings : Settings.Database) (store : Database.Store σ) :
    Database.Store σ × Except Problem Unit :=
  if settings.waitForDatabase then
    let (store, answered, _) :=
      Store.Wait.run settings.wait (fun store _ => store.ping world.server) store ⟨0⟩
    (store, answered.mapError Problem.ofStoreError |>.map fun _ => ())
  else (store, .ok ())

def openStore (world : World σ) (settings : Settings.Database) (store : Database.Store σ) :
    Database.Store σ × Except Problem Unit :=
  match awaitDatabase world settings store with
  | (store, .error problem) => (store, .error problem)
  | (store, .ok ()) => store.createSchema world.server

def replica (settings : Settings) : Replica where
  client := .new settings.source.cacheMax settings.source.cacheTtl settings.source.retryPolicy
  pages := .new "page" settings.api.pageCacheMax settings.api.pageCacheTtl
  freshness := { ttl := settings.refresh.ttl }
  policy := settings.refresh.partialPolicy

def fetch (world : World σ) (settings : Settings.Source) (page : UInt32) :
    Except SourceError SourcePage :=
  match Source.Http.request settings.baseUrl (some page) with
  | .error reason => .error (Source.Http.unsendable page reason)
  | .ok exchange => Source.Http.pageOf page (world.exchange exchange)

def surroundings (world : World σ) (settings : Settings.Source) :
    Refresh.Surroundings (Database.Store σ) Database.Lease where
  tryLock := Database.Store.tryLock world.server
  count := Database.Store.count world.server
  upsert := Database.Store.upsert world.server
  release := Database.Store.release world.server
  fetch store page := (store, fetch world settings page)

/-- Comes up, and gives the replica that serves from then on. To fill an empty store it takes so
many steps at most. -/
def run (world : World σ) (state : σ) (env : Settings.Environment) (time : Timestamp)
    (steps : Nat) : σ × Except Problem Replica :=
  match configure env with
  | .error problem => (state, .error problem)
  | .ok (settings, pool) =>
    match openStore world settings.database { pool, state } with
    | (store, .error problem) => (store.state, .error problem)
    | (store, .ok ()) =>
      let scene : Refresh.Cycle.Scene (Database.Store σ) :=
        { state := store, replica := replica settings, time }
      let (scene, _) := Refresh.Cycle.run (surroundings world settings.source) scene .seed steps
      (scene.state.state, .ok scene.replica)

/-- What is said of a failure, which has no details. -/
def complaint (problem : Problem) : String :=
  let retryAfter :=
    match problem.retryAfterSecs with
    | some secs => "Some(" ++ toString secs.toNat ++ ")"
    | none => "None"
  "Error: ApiError \x7b code: " ++ problem.code.name ++ ", message: " ++
    Text.quoted problem.message ++ ", details: None, retry_after_secs: " ++ retryAfter ++ " \x7d\n"

def failureCode : Nat := 1

end Startup

end Roster
