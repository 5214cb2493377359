import Roster.Problem

namespace Roster.Web

/-! Answers to requests. -/

inductive Body where
  | empty
  | text (content : String)
  | json (value : Json)
  deriving Inhabited

namespace Body

def render : Body → String
  | empty => ""
  | text content => content
  | json value => value.render

end Body

structure Response where
  status : Nat
  contentType : Option String := none
  location : Option String := none
  retryAfter : Option String := none
  allow : Option String := none
  body : Body := .empty
  deriving Inhabited

namespace Response

def jsonType : String := "application/json"

def json (value : Json) : Response where
  status := 200
  contentType := some jsonType
  body := .json value

def metrics (text : String) : Response where
  status := 200
  contentType := some "text/plain; version=0.0.4; charset=utf-8"
  body := .text text

def redirect (location : String) : Response := { status := 307, location := some location }

def notFound : Response := { status := 404 }

def methodNotAllowed : Response := { status := 405, allow := some "GET,HEAD" }

def ofProblem (problem : Problem) : Response where
  status := problem.status
  contentType := some jsonType
  retryAfter := problem.retryAfterSecs.map fun secs => toString secs.toNat
  body := .json problem.toJson

/-- The answer to a request that wants no body. -/
def withoutBody (response : Response) : Response := { response with body := .empty }

end Response

end Roster.Web
