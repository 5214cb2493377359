import Roster.Json.Decode
import Roster.Time.Span
import Roster.Time.Timestamp

namespace Roster

/-! When the store last received candidates, and whether that was too long ago. -/

structure Freshness where
  ttl : Span
  /-- The last refresh in whole milliseconds of calendar time. -/
  lastMillis : Option Int := none
  inProgress : Bool := false
  deriving DecidableEq, Inhabited

namespace Freshness

structure Report where
  lastRefresh : Option Timestamp
  /-- Seconds since the last refresh, rounded to hundredths. -/
  ageSeconds : Option Float
  stale : Bool
  inProgress : Bool
  deriving Inhabited

/-- Stands for no refresh at all. -/
def never : Int64 := Int64.minValue

/-- The one word in which the last refresh is kept. -/
def word (freshness : Freshness) : Int64 :=
  match freshness.lastMillis with
  | some millis => Int64.ofInt millis
  | none => never

def lastRefresh (freshness : Freshness) : Option Timestamp :=
  if freshness.word = never then none else Timestamp.ofMillis? freshness.word.toInt

def mark (freshness : Freshness) (time : Timestamp) : Freshness :=
  { freshness with lastMillis := some time.millis }

def setInProgress (freshness : Freshness) (value : Bool) : Freshness :=
  { freshness with inProgress := value }

def age (freshness : Freshness) (now : Timestamp) : Option Span :=
  freshness.lastRefresh.map fun last => Span.ofNanos (now.since last).toNat

def isStale (freshness : Freshness) (now : Timestamp) : Bool :=
  match freshness.age now with
  | some age => decide (freshness.ttl < age)
  | none => true

/-- A span in seconds, rounded to hundredths. -/
def hundredths (span : Span) : Float :=
  let seconds := span.secs.toUInt64.toFloat + span.subsec.toUInt64.toFloat / 1000000000.0
  (seconds * 100.0).round / 100.0

def report (freshness : Freshness) (now : Timestamp) : Report where
  lastRefresh := freshness.lastRefresh
  ageSeconds := (freshness.age now).map hundredths
  stale := freshness.isStale now
  inProgress := freshness.inProgress

/-! Calls in any order, and at any times. -/

inductive Call where
  | mark (time : Timestamp)
  | status (now : Timestamp)
  | setInProgress (value : Bool)

def Call.mark? : Call → Option Timestamp
  | .mark time => some time
  | _ => none

/-- To tell how things stand changes nothing. -/
def call (freshness : Freshness) : Call → Freshness
  | .mark time => freshness.mark time
  | .status _ => freshness
  | .setInProgress value => freshness.setInProgress value

def run (freshness : Freshness) (calls : List Call) : Freshness := calls.foldl call freshness

def lastMark? (calls : List Call) : Option Timestamp := (calls.filterMap Call.mark?).getLast?

namespace Report

def toJson (report : Report) : Json :=
  .obj [("last_refresh_at", Json.ofOption (fun time => .str time.render) report.lastRefresh),
    ("age_seconds", Json.ofOption (fun age => .float age.toBits) report.ageSeconds),
    ("stale", .bool report.stale), ("in_progress", .bool report.inProgress)]

def ofTree? (tree : Json.Tree) : Option Report := do
  match ← tree.fields? ["last_refresh_at", "age_seconds", "stale", "in_progress"] with
  | [lastRefresh, ageSeconds, stale, inProgress] =>
    return {
      lastRefresh := ← lastRefresh.optional fun tree => tree.text?.bind Timestamp.read?
      ageSeconds := ← ageSeconds.optional Json.Tree.float?
      stale := ← stale.required Json.Tree.bool?
      inProgress := ← inProgress.required Json.Tree.bool? }
  | _ => none

end Report

end Freshness

end Roster
