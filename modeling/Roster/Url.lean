import Roster.Host

namespace Roster

/-! Addresses of the form scheme, host, path, query and fragment, and their written form. -/

structure Url where
  scheme : String
  username : String := ""
  /-- Empty if there is none. -/
  password : String := ""
  /-- None where the path follows the scheme at once. -/
  host : Option Host := none
  /-- The number behind the host, unless it is the default one. -/
  tcpPort : Option Nat := none
  path : String := ""
  query : Option String := none
  /-- What is written behind a number sign; no request names it. -/
  fragment : Option String := none
  deriving DecidableEq, Inhabited

namespace Url

def hasHost (url : Url) : Bool := url.host.any (· != .empty)

def hasCredentials (url : Url) : Bool := url.username != "" || url.password != ""

def credentials (url : Url) : String :=
  if url.hasCredentials then
    url.username ++ (if url.password = "" then "" else ":" ++ url.password) ++ "@"
  else ""

/-- What stands between the two slashes and the path. -/
def authority (url : Url) : String :=
  url.credentials ++ ((url.host.map Host.render).getD "") ++
    match url.tcpPort with
    | some number => ":" ++ toString number
    | none => ""

/-- Path and query, as a request names them. -/
def target (url : Url) : String :=
  url.path ++
    match url.query with
    | some query => "?" ++ query
    | none => ""

/-- The written form. A path whose slashes could be taken for those before a host comes behind a slash
and a dot. -/
def render (url : Url) : String :=
  url.scheme ++ ":" ++
    (if url.host.isSome then "//" ++ url.authority
      else if url.path.startsWith "//" then "/." else "") ++
    url.target ++
    match url.fragment with
    | some fragment => "#" ++ fragment
    | none => ""

/-- Whether the bytes that are encoded in a text are text. -/
def isText (encoded : String) : Bool :=
  (String.fromUTF8? ⟨(Text.Percent.decode encoded.toUTF8.toList).toArray⟩).isSome

/-- Leaves out credentials, if they can be read. -/
def withoutCredentials (url : Url) : Url :=
  if isText url.username && (url.username != "" || isText url.password) then
    { url with username := "", password := "" }
  else url

/-- Adds a named value to the query. -/
def withParam (url : Url) (name value : String) : Url :=
  let pair := name ++ "=" ++ value
  { url with
    query := some (match url.query with
      | some query => if query = "" then pair else query ++ "&" ++ pair
      | none => pair) }

end Url

end Roster
