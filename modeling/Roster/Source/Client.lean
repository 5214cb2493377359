import Roster.Cache.Memo
import Roster.Character
import Roster.Source.Error
import Roster.Source.Retry

namespace Roster.Source

/-! Fetching of pages. A page that was fetched lately is remembered; any other is asked for until
the source answers, refuses for good, or the attempts are used up. -/

/-- A page that is being fetched, and how often it has been asked for. -/
structure Fetch where
  page : UInt32
  attempt : Nat
  deriving DecidableEq, Inhabited

namespace Fetch

inductive Next where
  | ask (fetch : Fetch)
  /-- A wait, after which it asks again. -/
  | pause (span : Span) (fetch : Fetch)
  | done (result : Except SourceError SourcePage)

end Fetch

/-- Requests sent, attempts after failed ones, and pages that failed for good. -/
structure Tally where
  calls : Nat := 0
  retries : Nat := 0
  failures : Nat := 0
  deriving DecidableEq, Inhabited

structure Client where
  memo : Cache.Memo UInt32 SourcePage
  retry : RetryPolicy
  tally : Tally := {}

namespace Client

def new (capacity : Nat) (ttl : Span) (retry : RetryPolicy) : Client where
  memo := .new "upstream" capacity ttl
  retry := retry

def ask (client : Client) (fetch : Fetch) : Client × Fetch.Next :=
  ({ client with tally := { client.tally with calls := client.tally.calls + 1 } },
    .ask { fetch with attempt := fetch.attempt + 1 })

/-- Begins to fetch a page, unless it is remembered. -/
def fetch (client : Client) (page : UInt32) (now : Instant) : Client × Fetch.Next :=
  match client.memo.look page now with
  | (memo, some found) => ({ client with memo }, .done (.ok found))
  | (memo, none) => { client with memo }.ask ⟨page, 0⟩

/-- A page that will not come. -/
def fail (client : Client) (error : SourceError) : Client × Fetch.Next :=
  ({ client with tally := { client.tally with failures := client.tally.failures + 1 } },
    .done (.error error))

/-- Goes on with what the source has answered. The number drawn selects the jitter of a wait. -/
def answer (client : Client) (fetch : Fetch) (result : Except SourceError SourcePage)
    (draw : Nat) (now : Instant) : Client × Fetch.Next :=
  match result with
  | .ok page =>
    ({ client with memo := client.memo.keep fetch.page page now }, .done (.ok page))
  | .error (.transient page reason retryAfter) =>
    if client.retry.maxAttempts ≤ fetch.attempt then
      client.fail (.unavailable fetch.page fetch.attempt
        (SourceError.transient page reason retryAfter).message)
    else
      ({ client with tally := { client.tally with retries := client.tally.retries + 1 } },
        .pause (client.retry.delay fetch.attempt retryAfter draw) fetch)
  | .error (.fatal page status reason) => client.fail (.fatal page status reason)
  | .error (.unavailable page attempts lastError) =>
    client.fail (.unavailable page attempts lastError)

end Client

end Roster.Source
