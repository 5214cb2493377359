import Roster.Refresh.Policy
import Roster.Settings.Environment
import Roster.Source.Retry

namespace Roster

/-! The settings of the service. Each has a default; constraints among them are checked once. -/

namespace Settings

/-- Where the service listens, and how much it caches of its listings. -/
structure Api where
  bindHost : String := "0.0.0.0"
  tcpPort : UInt16 := 8000
  pageCacheTtl : Span := .ofSecs 30
  pageCacheMax : Nat := 256
  deriving DecidableEq

structure Database where
  host : String := "localhost"
  tcpPort : UInt16 := 5432
  name : String := "rickmorty"
  user : String := "postgres"
  password : String := "postgres"
  maxSize : Nat := 16
  timeout : Span := .ofSecs 5
  waitForDatabase : Bool := false
  wait : RetryPolicy := ⟨30, .ofMillis 500, .ofMillis 5000, .zero⟩
  deriving DecidableEq

structure Source where
  baseUrl : String := "https://rickandmortyapi.com/api/character"
  maxRetries : Nat := 5
  requestTimeout : Span := .ofSecs 10
  probeTimeout : Span := .ofSecs 5
  cacheTtl : Span := .ofSecs 60
  cacheMax : Nat := 64
  deriving DecidableEq

namespace Source

def retryPolicy (source : Source) : RetryPolicy := { maxAttempts := source.maxRetries }

end Source

structure Refresh where
  interval : Span := .ofSecs 300
  ttl : Span := .ofSecs 600
  enabled : Bool := true
  partialPolicy : Roster.Refresh.PartialPolicy := .proceed
  deriving DecidableEq

end Settings

structure Settings where
  api : Settings.Api := {}
  database : Settings.Database := {}
  source : Settings.Source := {}
  refresh : Settings.Refresh := {}
  deriving DecidableEq

namespace Settings

def secondsOr (env : Environment) (name : String) (default : Nat) : Span :=
  .ofSecs (UInt64.ofNat (env.numberOr UInt64.size name default))

def millisOr (env : Environment) (name : String) (default : Nat) : Span :=
  .ofMillis (UInt64.ofNat (env.numberOr UInt64.size name default))

namespace Api

/-- The general variable hides the particular one, even if it cannot be read. -/
def portOf (env : Environment) : UInt16 :=
  let name := if (env.text? "PORT").isSome then "PORT" else "PORTAL_API_PORT"
  UInt16.ofNat (env.numberOr UInt16.size name 8000)

def ofEnvironment (env : Environment) : Api where
  bindHost := env.textOr "PORTAL_API_BIND" "0.0.0.0"
  tcpPort := portOf env
  pageCacheTtl := secondsOr env "PORTAL_PAGE_CACHE_TTL_SECS" 30
  pageCacheMax := env.numberOr UInt64.size "PORTAL_PAGE_CACHE_MAX" 256

def bindAddress (api : Api) : String := api.bindHost ++ ":" ++ toString api.tcpPort.toNat

end Api

namespace Database

def ofEnvironment (env : Environment) : Database where
  host := env.textOr "PORTAL_DB_HOST" "localhost"
  tcpPort := UInt16.ofNat (env.numberOr UInt16.size "PORTAL_DB_PORT" 5432)
  name := env.textOr "PORTAL_DB_NAME" "rickmorty"
  user := env.textOr "PORTAL_DB_USER" "postgres"
  password := env.textOr "PORTAL_DB_PASSWORD" "postgres"
  maxSize := env.numberOr UInt64.size "PORTAL_DB_POOL_SIZE" 16
  timeout := secondsOr env "PORTAL_DB_TIMEOUT_SECS" 5
  waitForDatabase := env.flagOr "PORTAL_DB_WAIT_FOR_DB" false
  wait := {
    maxAttempts := env.numberOr UInt32.size "PORTAL_DB_WAIT_MAX_ATTEMPTS" 30
    base := millisOr env "PORTAL_DB_WAIT_BACKOFF_START_MS" 500
    cap := millisOr env "PORTAL_DB_WAIT_BACKOFF_MAX_MS" 5000
    jitter := .zero }

end Database

namespace Source

def ofEnvironment (env : Environment) : Source where
  baseUrl := env.textOr "PORTAL_UPSTREAM_BASE_URL" "https://rickandmortyapi.com/api/character"
  maxRetries := env.numberOr UInt32.size "PORTAL_MAX_RETRIES" 5
  requestTimeout := secondsOr env "PORTAL_REQUEST_TIMEOUT_SECS" 10
  probeTimeout := .ofSecs 5
  cacheTtl := secondsOr env "PORTAL_UPSTREAM_CACHE_TTL_SECS" 60
  cacheMax := env.numberOr UInt64.size "PORTAL_UPSTREAM_CACHE_MAX" 64

end Source

namespace Refresh

def ofEnvironment (env : Environment) : Except SettingsError Refresh := do
  let partialPolicy ←
    match env.text? Roster.Refresh.PartialPolicy.settingName with
    | some text => Roster.Refresh.PartialPolicy.parse text
    | none => .ok .proceed
  return {
    interval := secondsOr env "PORTAL_REFRESH_INTERVAL_SECS" 300
    ttl := secondsOr env "PORTAL_REFRESH_TTL_SECS" 600
    enabled := env.flagOr "PORTAL_REFRESH_WORKER_ENABLED" true
    partialPolicy }

end Refresh

/-- The constraints, in the order in which they are checked. What the source answered in one refresh
must not be remembered until the next. -/
def validate (settings : Settings) : Except SettingsError Unit :=
  if settings.database.maxSize = 0 then
    .error (.invalidValue "PORTAL_DB_POOL_SIZE" "0" "pool needs at least one connection")
  else if settings.database.waitForDatabase ∧ settings.database.wait.maxAttempts = 0 then
    .error (.invalidValue "PORTAL_DB_WAIT_MAX_ATTEMPTS" "0" "at least one ping is required")
  else if settings.source.maxRetries = 0 then
    .error (.invalidValue "PORTAL_MAX_RETRIES" "0" "at least one attempt is required")
  else if Text.trim settings.source.baseUrl = "" then
    .error (.missingRequired "PORTAL_UPSTREAM_BASE_URL")
  else if settings.refresh.interval = .zero then
    .error (.invalidValue "PORTAL_REFRESH_INTERVAL_SECS" "0" "interval must be positive")
  else if settings.refresh.interval ≤ settings.source.cacheTtl then
    .error (.incompatibleOptions
      ("PORTAL_UPSTREAM_CACHE_TTL_SECS=" ++ toString settings.source.cacheTtl.secs)
      ("PORTAL_REFRESH_INTERVAL_SECS=" ++ toString settings.refresh.interval.secs))
  else .ok ()

/-- The settings that the environment makes, if they satisfy the constraints. -/
def ofEnvironment (env : Environment) : Except SettingsError Settings := do
  let settings : Settings := {
    api := Api.ofEnvironment env
    database := Database.ofEnvironment env
    source := Source.ofEnvironment env
    refresh := ← Refresh.ofEnvironment env }
  settings.validate
  return settings

end Settings

end Roster
