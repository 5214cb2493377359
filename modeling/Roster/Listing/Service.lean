import Roster.Problem
import Roster.Replica
import Roster.Store.Error

namespace Roster.Listing

/-! Serving listings: a page comes from the page cache, or from the store through it. -/

inductive Call where
  /-- For the call whose flight it has joined. -/
  | waiting (query : Query) (ticket : Cache.Ticket)
  /-- For the store. -/
  | loading (query : Query) (load : Cache.Coalescing.Call Query)

namespace Call

inductive Step where
  | await (call : Call)
  | done (result : Except StoreError Slice)

abbrev Notice := Cache.Notice Slice StoreError

def begin (pages : PageCache) (query : Query) (now : Instant) :
    PageCache × Step × List Notice :=
  match pages.begin query now with
  | (pages, .hit slice, notices) => (pages, .done (.ok slice), notices)
  | (pages, .pending (.waiting ticket), notices) =>
    (pages, .await (.waiting query ticket), notices)
  | (pages, .pending load, notices) => (pages, .await (.loading query load), notices)

/-- Goes on with what it is told of the flight it has joined; without a result it asks the store
itself. -/
def onNotice (query : Query) : Option (Except StoreError Slice) → Step
  | some result => .done result
  | none => .await (.loading query .direct)

def onAnswer (pages : PageCache) (load : Cache.Coalescing.Call Query)
    (answer : Except StoreError Slice) (now : Instant) : PageCache × Step × List Notice :=
  let (pages, notices) := pages.finish load answer now
  (pages, .done answer, notices)

def cancel (pages : PageCache) : Call → PageCache × List Notice
  | waiting .. => (pages, [])
  | loading _ load => pages.abandon load

end Call

/-- What a client is given for a query. -/
def respond (query : Query) : Except StoreError Slice → Except Problem Page
  | .ok slice => .ok (.ofSlice query slice)
  | .error error => .error (.ofStoreError error)

end Roster.Listing
