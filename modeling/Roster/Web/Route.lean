namespace Roster.Web

/-! Where requests go. -/

structure Request where
  method : String := "GET"
  path : String
  /-- What follows the question mark, if there is one. -/
  query : Option String := none
  deriving DecidableEq, Inhabited

namespace Request

/-- Characters of the word before the colon and the two slashes of a full address. -/
def isSchemeChar (c : Char) : Bool := c.isAlphanum || "+-.~".toList.contains c

/-- What follows the host. An address that begins with a slash has none, nor has a star; a full address
has one up to its path; any other is nothing but a host. -/
def afterHost (address : List Char) : List Char :=
  match address with
  | '/' :: _ => address
  | ['*'] => address
  | _ =>
    match address.dropWhile isSchemeChar with
    | ':' :: '/' :: '/' :: rest =>
      match rest.dropWhile fun c => c != '/' && c != '?' with
      | '/' :: path => '/' :: path
      | query => '/' :: query
    | _ => []

/-- Splits an address into path and query. What follows a number sign belongs to neither. -/
def ofAddress (method : String) (address : String) : Request :=
  let (path, rest) := (afterHost (address.toList.takeWhile (· != '#'))).span (· != '?')
  { method
    path := String.ofList path
    query := if rest.isEmpty then none else some (String.ofList (rest.drop 1)) }

end Request

inductive Route where
  | root
  | characters
  | healthcheck
  | liveness
  | metrics
  deriving DecidableEq, Inhabited

namespace Route

def path : Route → String
  | root => "/"
  | characters => "/characters"
  | healthcheck => "/healthcheck"
  | liveness => "/health/live"
  | metrics => "/metrics"

def all : List Route := [root, characters, healthcheck, liveness, metrics]

/-- Paths are compared as they are written. -/
def ofPath? (path : String) : Option Route := all.find? fun route => route.path == path

/-- How a route is called in measurements. Paths that lead nowhere share one name. -/
def label : Option Route → String
  | some route => route.path
  | none => "unmatched"

@[simp] theorem ofPath?_path (route : Route) : ofPath? route.path = some route := by
  cases route <;> rfl

end Route

end Roster.Web
