import Roster.Startup

/-! The program. It reads its settings from the environment. It has no network of its own, so that a
database is never reached: what it can do is to check its settings and say what fails. -/

namespace Roster.Program

def noDatabase : Database.Server Unit where
  connect _ := ((), .error .unreachable)
  answer _ _ _ := ((), .error .closed)
  isOpen _ _ := false
  disconnect _ _ := ()

/-- The variables of the environment that have a meaning. -/
def variableNames : List String :=
  ["PORT", "PORTAL_API_PORT", "PORTAL_API_BIND", "PORTAL_PAGE_CACHE_TTL_SECS",
    "PORTAL_PAGE_CACHE_MAX", "PORTAL_DB_HOST", "PORTAL_DB_PORT", "PORTAL_DB_NAME",
    "PORTAL_DB_USER", "PORTAL_DB_PASSWORD", "PORTAL_DB_POOL_SIZE", "PORTAL_DB_TIMEOUT_SECS",
    "PORTAL_DB_WAIT_FOR_DB", "PORTAL_DB_WAIT_MAX_ATTEMPTS", "PORTAL_DB_WAIT_BACKOFF_START_MS",
    "PORTAL_DB_WAIT_BACKOFF_MAX_MS", "PORTAL_UPSTREAM_BASE_URL", "PORTAL_MAX_RETRIES",
    "PORTAL_REQUEST_TIMEOUT_SECS", "PORTAL_UPSTREAM_CACHE_TTL_SECS", "PORTAL_UPSTREAM_CACHE_MAX",
    "PORTAL_REFRESH_PARTIAL_POLICY", "PORTAL_REFRESH_INTERVAL_SECS", "PORTAL_REFRESH_TTL_SECS",
    "PORTAL_REFRESH_WORKER_ENABLED"]

def readEnvironment : IO Settings.Environment := do
  let mut entries := []
  for name in variableNames do
    if let some value ← IO.getEnv name then
      entries := (name, value.toUTF8.toList) :: entries
  return ⟨entries⟩

/-- Starts the service. Nothing is ever refreshed, so that the time does not matter. -/
def run (env : Settings.Environment) : Except Problem Unit :=
  let world : Startup.World Unit := ⟨noDatabase, fun exchange => .silence exchange.first⟩
  (Startup.run world () env (.ofMillis 0) 10000).2.map fun _ => ()

end Roster.Program

open Roster in
def main : IO UInt32 := do
  match Program.run (← Program.readEnvironment) with
  | .ok () => return 0
  | .error problem =>
    IO.eprint (Startup.complaint problem)
    return UInt32.ofNat Startup.failureCode
