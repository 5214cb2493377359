import Roster.Metrics.Exposition
import Roster.Metrics.Labelled
import Roster.Problem
import Roster.Replica

namespace Roster.Metrics

/-! What the service measures of itself. Requests are recorded as they are answered; what caches,
source and cycles have counted is copied when the measurements are asked for, and a counter never
falls. -/

/-- How long requests took: a count for each upper bound, all in all, and the sum. -/
structure Histogram where
  counts : List Nat
  total : Nat := 0
  sum : Float := 0.0

namespace Histogram

def bounds : List Float :=
  [0.001, 0.005, 0.010, 0.025, 0.050, 0.100, 0.250, 0.500, 1.0, 2.5, 5.0, 10.0]

def empty : Histogram := { counts := bounds.map fun _ => 0 }

/-- A value counts for every bound that it does not exceed. -/
def observe (histogram : Histogram) (value : Float) : Histogram where
  counts := List.zipWith (fun bound count => if value ≤ bound then count + 1 else count)
    bounds histogram.counts
  total := histogram.total + 1
  sum := histogram.sum + value

def samples (name : String) (labels : List (String × String)) (histogram : Histogram) :
    List Sample :=
  let bucket (bound : String) (count : Nat) :=
    Sample.ofNat (name ++ "_bucket") (labels ++ [("le", bound)]) count
  List.zipWith (fun bound count => bucket (Sample.numberLayout.render bound.toBits) count)
      bounds histogram.counts ++
    [bucket "+Inf" histogram.total, .ofFloat (name ++ "_sum") labels histogram.sum,
      .ofNat (name ++ "_count") labels histogram.total]

end Histogram

structure Registry where
  requests : Labelled Nat := []
  durations : Labelled Histogram := []
  pageHits : Nat := 0
  pageMisses : Nat := 0
  pagePuts : Nat := 0
  pageEntries : Nat := 0
  cacheErrors : Labelled Nat := []
  sourceRequests : Labelled Nat := []
  cycles : Labelled Nat := []
  upserted : Nat := 0
  /-- Seconds since the last refresh, or -1 if there was none. -/
  refreshAge : Float := 0.0
  dbOk : Bool := false
  sourceOk : Bool := false

namespace Registry

def alreadyRegistered : Problem :=
  .internalError
    "Failed to register http_requests_total: Duplicate metrics collector registration attempted"

/-- The measurements of a process; they can be registered once. -/
def register (registered : Bool) : Except Problem Registry :=
  if registered then .error alreadyRegistered else .ok {}

def recordRequest (registry : Registry) (method path : String) (status : Nat) (seconds : Float) :
    Registry :=
  { registry with
    requests := registry.requests.update [method, path, toString status] 0 (· + 1)
    durations := registry.durations.update [method, path] .empty (·.observe seconds) }

/-- The largest value of a gauge that counts. -/
def maxEntries : Nat := 0x7FFFFFFFFFFFFFFF

def observePages (registry : Registry) (stats : Cache.Stats) : Registry :=
  { registry with
    pageHits := max registry.pageHits stats.hits
    pageMisses := max registry.pageMisses stats.misses
    pagePuts := max registry.pagePuts stats.puts
    cacheErrors := registry.cacheErrors.raise ["page"] stats.errors
    pageEntries := min stats.entries maxEntries }

def observeSource (registry : Registry) (tally : Source.Tally) (memo : Cache.Stats) : Registry :=
  let requests := registry.sourceRequests
    |>.raise ["call"] tally.calls
    |>.raise ["retry"] tally.retries
    |>.raise ["failure"] tally.failures
    |>.raise ["cache_hit"] memo.hits
  { registry with
    sourceRequests := requests
    cacheErrors := registry.cacheErrors.raise ["upstream"] memo.errors }

def observeRefresh (registry : Registry) (tally : Refresh.Tally) (report : Freshness.Report) :
    Registry :=
  let cycles := registry.cycles
    |>.raise ["completed"] tally.completed
    |>.raise ["partial"] tally.cutShort
    |>.raise ["skipped"] tally.skipped
    |>.raise ["failed"] tally.failed
  { registry with
    cycles
    upserted := max registry.upserted tally.upserted
    refreshAge := report.ageSeconds.getD (-1.0) }

def setHealth (registry : Registry) (dbOk sourceOk : Bool) : Registry :=
  { registry with dbOk, sourceOk }

def sync (registry : Registry) (replica : Replica) (time : Timestamp) : Registry :=
  registry.observePages replica.pages.stats
    |>.observeSource replica.client.tally replica.client.memo.stats
    |>.observeRefresh replica.tally (replica.freshness.report time)

def labelled (name : String) (labels : List String) (counters : Labelled Nat) : List Sample :=
  counters.map fun (values, count) => .ofNat name (labels.zip values) count

def flag (name : String) (value : Bool) : Sample := .ofNat name [] (if value then 1 else 0)

def counter (name help : String) (samples : List Sample) : Family :=
  { name, help, kind := .counter, samples }

def gauge (name help : String) (samples : List Sample) : Family :=
  { name, help, kind := .gauge, samples }

/-- All families, in the order of their names. -/
def families (registry : Registry) : List Family :=
  [counter "portal_cache_errors_total"
      "Internal cache failures that fell back to the backing source"
      (labelled "portal_cache_errors_total" ["cache"] registry.cacheErrors),
    gauge "portal_db_ok" "1 if the last store check succeeded"
      [flag "portal_db_ok" registry.dbOk],
    { name := "portal_http_request_duration_seconds"
      help := "HTTP request duration in seconds"
      kind := .histogram
      samples := registry.durations.flatMap fun (values, histogram) =>
        histogram.samples "portal_http_request_duration_seconds" (["method", "path"].zip values) },
    counter "portal_http_requests_total" "Total number of HTTP requests"
      (labelled "portal_http_requests_total" ["method", "path", "status"] registry.requests),
    gauge "portal_last_refresh_age_seconds"
      "Seconds since the last successful refresh, -1 if none yet"
      [.ofFloat "portal_last_refresh_age_seconds" [] registry.refreshAge],
    gauge "portal_page_cache_entries" "Listing pages currently cached"
      [.ofNat "portal_page_cache_entries" [] registry.pageEntries],
    counter "portal_page_cache_hits_total" "Listing pages served from the page cache"
      [.ofNat "portal_page_cache_hits_total" [] registry.pageHits],
    counter "portal_page_cache_misses_total" "Listing page lookups that missed the page cache"
      [.ofNat "portal_page_cache_misses_total" [] registry.pageMisses],
    counter "portal_page_cache_puts_total" "Listing pages stored in the page cache"
      [.ofNat "portal_page_cache_puts_total" [] registry.pagePuts],
    counter "portal_refresh_cycles_total" "Refresh cycles by outcome"
      (labelled "portal_refresh_cycles_total" ["outcome"] registry.cycles),
    counter "portal_refresh_records_upserted_total" "Rows written by refresh cycles"
      [.ofNat "portal_refresh_records_upserted_total" [] registry.upserted],
    gauge "portal_upstream_ok" "1 if the last upstream probe succeeded"
      [flag "portal_upstream_ok" registry.sourceOk],
    counter "portal_upstream_requests_total" "Upstream page requests by outcome"
      (labelled "portal_upstream_requests_total" ["outcome"] registry.sourceRequests)]

def render (registry : Registry) : String := Family.render registry.families

end Registry

end Roster.Metrics
