import Roster.Listing.Service
import Roster.Metrics.Registry
import Roster.Web.Health
import Roster.Web.ListingParams
import Roster.Web.Response
import Roster.Web.Route

namespace Roster.Web

/-! Answering requests. Each request is recorded once its answer is known. -/

/-- What the answer to a request takes. -/
inductive Task where
  | respond (response : Response)
  /-- A page of the listing. -/
  | list (query : Listing.Query)
  /-- A count of the store and a probe of the source. -/
  | checkHealth
  | expose

def Route.task (query : Option String) : Route → Task
  | .root => .respond (.redirect Route.characters.path)
  | .liveness => .respond (.json (.obj [("status", .str "alive")]))
  | .healthcheck => .checkHealth
  | .metrics => .expose
  | .characters =>
    match listingQuery query with
    | .ok query => .list query
    | .error problem => .respond (.ofProblem problem)

/-- Methods are compared as they are written. -/
def isReading (method : String) : Bool := method == "GET" || method == "HEAD"

namespace Request

def route? (request : Request) : Option Route := Route.ofPath? request.path

def task (request : Request) : Task :=
  match request.route? with
  | none => .respond .notFound
  | some route =>
    if isReading request.method then route.task request.query else .respond .methodNotAllowed

/-- The answer as it is sent. -/
def finish (request : Request) (response : Response) : Response :=
  if request.method = "HEAD" then response.withoutBody else response

def record (request : Request) (response : Response) (seconds : Float)
    (registry : Metrics.Registry) : Metrics.Registry :=
  registry.recordRequest request.method (Route.label request.route?) response.status seconds

end Request

def listingResponse : Except Problem Listing.Page → Response
  | .ok page => .json page.toJson
  | .error problem => .ofProblem problem

/-- The state of the service. A store that cannot be counted has no characters to tell of. -/
def health (count : Except StoreError Nat) (sourceOk : Bool) (report : Freshness.Report) :
    Health :=
  let dbOk := count.toOption.isSome
  { status := if dbOk && sourceOk then .ok else .degraded
    dbOk := dbOk
    sourceOk := sourceOk
    characters := count.toOption.getD 0
    lastRefreshAge := report.ageSeconds
    stale := report.stale
    refreshInProgress := report.inProgress }

end Roster.Web
