import Roster.Character.Wire
import Roster.Message.Response
import Roster.Source.Error
import Roster.Source.RetryAfter
import Roster.Source.Status
import Roster.Url.Reading
import Roster.Url.Strict

namespace Roster.Source

/-! A source behind HTTP. A page is one GET request, and redirects are followed for a while. What
comes back is a page, a refusal for good, or a failure that may pass. -/

namespace Http

open Message (Deed Inflow Response)

def userAgent : String := "portal/0.4.0"

def maxRedirects : Nat := 10

structure Exchange where
  url : Url
  /-- The address that was asked before all redirects. Where no answer comes, it is the one that is
  named. -/
  first : Url := url
  /-- Redirects that led to it. -/
  redirects : Nat := 0
  deriving Inhabited

namespace Exchange

def requestLine (exchange : Exchange) : String := "GET " ++ exchange.url.target ++ " HTTP/1.1"

end Exchange

/-- What comes of a request in the end. -/
inductive Reply where
  | response (response : Response)
  /-- There was no answer. -/
  | silence (url : Url)
  | endlessRedirects (url : Url)
  /-- A redirect to an address of another scheme. -/
  | strayRedirect (url : Url)

inductive Step where
  | send (exchange : Exchange)
  | done (reply : Reply)

/-- Why there is no request to send. -/
inductive Unsendable where
  | malformed
  /-- No request can be sent to the address. -/
  | stray (url : Url)

def Unsendable.message : Unsendable → String
  | malformed => "builder error"
  | stray url => "builder error for url (" ++ url.render ++ ")"

/-- Whether requests are sent to addresses of a scheme. -/
def isSendable (url : Url) : Bool := url.scheme == "http" || url.scheme == "https"

/-- The request for a page, or without one for the base address itself. Credentials are not part of
the address that is asked. -/
def request (base : String) (page : Option UInt32) : Except Unsendable Exchange :=
  match Url.parse? base with
  | none => .error .malformed
  | some url =>
    if url.hasHost then
      let url := url.withoutCredentials
      let url :=
        match page with
        | some page => url.withParam "page" (toString page.toNat)
        | none => url
      if isSendable url && url.strict?.isSome then .ok { url } else .error (.stray url)
    else .error (.stray url)

/-- The address that a response leads on to, if it can be brought into the strict form. -/
def location? (url : Url) (response : Response) : Option Url := do
  let value ← (response.values "location").head?
  let text ← String.fromUTF8? ⟨value.toArray⟩
  (← url.join? text).strict?

def onResponse (exchange : Exchange) (response : Response) : Step :=
  if Status.isRedirect response.status then
    match location? exchange.url response with
    | none => .done (.response response)
    | some url =>
      if maxRedirects ≤ exchange.redirects then .done (.endlessRedirects exchange.url)
      else if isSendable url then
        .send { url, first := exchange.first, redirects := exchange.redirects + 1 }
      else .done (.strayRedirect url)
  else .done (.response response)

def statusError (page : UInt32) (response : Response) : SourceError :=
  let status := response.status
  if status = Status.tooManyRequests ∨ Status.isServerError status = true then
    .transient page ("status " ++ toString status)
      (RetryAfter.parse (response.values "retry-after"))
  else .fatal page (some status) ((Status.reason? status).getD "unexpected status")

def unsendable (page : UInt32) (reason : Unsendable) : SourceError :=
  .fatal page none ("invalid request: " ++ reason.message)

def undecodable (page : UInt32) : SourceError :=
  .fatal page none "undecodable payload: error decoding response body"

/-- The page that a reply brings. A body that has broken off counts as one that cannot be
decoded. -/
def pageOf (page : UInt32) : Reply → Except SourceError SourcePage
  | .silence url =>
    .error (.transient page ("error sending request for url (" ++ url.render ++ ")") none)
  | .endlessRedirects url =>
    .error (.transient page ("error following redirect for url (" ++ url.render ++ ")") none)
  | .strayRedirect url => .error (unsendable page (.stray url))
  | .response response =>
    if Status.isSuccess response.status then
      match response.body.bind SourcePage.ofBytes? with
      | some found => .ok found
      | none => .error (undecodable page)
    else .error (statusError page response)

/-- Whether a reply shows that the source can be reached. -/
def isReachable : Reply → Bool
  | .response response => Status.isSuccess response.status
  | _ => false

/-! What a server does, and what comes of it in time. -/

inductive Conduct where
  | refuses
  | serves (deeds : List (Span × Deed))

namespace Conduct

/-- The response whose head has come within a limit. It has a body if that has come completely. -/
def response? (limit : Span) : Conduct → Option Response
  | refuses => none
  | serves deeds => (Inflow.within limit.nanos deeds).response?

/-- What a request leads to at once: its reply, or another request. -/
def step (limit : Span) (exchange : Exchange) (conduct : Conduct) : Step :=
  match conduct.response? limit with
  | none => .done (.silence exchange.first)
  | some response => onResponse exchange response

def reply (limit : Span) (exchange : Exchange) (conduct : Conduct) : Reply :=
  match conduct.response? limit with
  | none => .silence exchange.first
  | some response => .response response

end Conduct

end Http

end Roster.Source
