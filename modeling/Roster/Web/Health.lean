import Roster.Listing.Wire

namespace Roster.Web

/-! What the health check tells. -/

inductive HealthStatus where
  | ok
  | degraded
  deriving DecidableEq, Inhabited

namespace HealthStatus

def label : HealthStatus → String
  | ok => "ok"
  | degraded => "degraded"

def ofLabel? : String → Option HealthStatus
  | "ok" => some ok
  | "degraded" => some degraded
  | _ => none

@[simp] theorem ofLabel?_label (status : HealthStatus) : ofLabel? status.label = some status := by
  cases status <;> rfl

def ofTree? (tree : Json.Tree) : Option HealthStatus := tree.choice? ofLabel?

end HealthStatus

structure Health where
  status : HealthStatus
  dbOk : Bool
  sourceOk : Bool
  characters : Nat
  lastRefreshAge : Option Float
  stale : Bool
  refreshInProgress : Bool
  deriving Inhabited

namespace Health

def toJson (health : Health) : Json :=
  .obj [("status", .str health.status.label), ("db_ok", .bool health.dbOk),
    ("upstream_ok", .bool health.sourceOk), ("character_count", .int health.characters),
    ("last_refresh_age", Json.ofOption (fun age => .float age.toBits) health.lastRefreshAge),
    ("stale", .bool health.stale), ("refresh_in_progress", .bool health.refreshInProgress)]

def fieldNames : List String :=
  ["status", "db_ok", "upstream_ok", "character_count", "last_refresh_age", "stale",
    "refresh_in_progress"]

def ofTree? (tree : Json.Tree) : Option Health := do
  match ← tree.fields? fieldNames with
  | [status, dbOk, sourceOk, characters, lastRefreshAge, stale, refreshInProgress] =>
    return {
      status := ← status.required HealthStatus.ofTree?
      dbOk := ← dbOk.required Json.Tree.bool?
      sourceOk := ← sourceOk.required Json.Tree.bool?
      characters := ← characters.required Json.Tree.count?
      lastRefreshAge := ← lastRefreshAge.optional Json.Tree.float?
      stale := ← stale.required Json.Tree.bool?
      refreshInProgress := ← refreshInProgress.required Json.Tree.bool? }
  | _ => none

end Health

end Roster.Web
