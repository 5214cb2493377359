import Roster.LockTable

namespace Roster.Refresh

/-! What a refresh cycle is for, where it stands, and how it ended. -/

inductive Mode where
  | refresh
  | seed
  deriving DecidableEq, Inhabited

/-- The lock under which periodic refreshes run. -/
def refreshLock : LockKey := 0xBEEFED

/-- The lock under which empty stores are filled. -/
def seedLock : LockKey := 0xC0FFEE

def Mode.lock : Mode → LockKey
  | refresh => refreshLock
  | seed => seedLock

inductive Phase where
  | idle
  | acquiring
  | running
  | releasing
  | failed
  deriving DecidableEq, Inhabited

def Phase.label : Phase → String
  | idle => "idle"
  | acquiring => "acquiring"
  | running => "running"
  | releasing => "releasing"
  | failed => "failed"

/-- What a cycle has done that wrote to the store. -/
structure Completion where
  /-- Pages taken from the source, of which there are fewer than 2 ^ 32. -/
  pages : Nat
  fetched : Nat
  kept : Nat
  upserted : Nat
  /-- Whether the source failed after the last of the pages. -/
  cutShort : Bool
  deriving DecidableEq, Inhabited

inductive Outcome where
  | skipped
  | completed (completion : Completion)
  /-- The kind of the failure, and how many characters were at hand. -/
  | failed (kind : String) (records : Nat)
  deriving DecidableEq, Inhabited

namespace Outcome

def label : Outcome → String
  | skipped => "skipped"
  | completed completion => if completion.cutShort then "partial" else "completed"
  | failed .. => "failed"

/-- The phase in which a cycle with this outcome leaves its replica. -/
def phaseAfter : Outcome → Phase
  | failed .. => .failed
  | _ => .idle

end Outcome

/-- How many cycles ended in which way, and the rows that they wrote. -/
structure Tally where
  completed : Nat := 0
  cutShort : Nat := 0
  skipped : Nat := 0
  failed : Nat := 0
  upserted : Nat := 0
  deriving DecidableEq, Inhabited

def Tally.add (tally : Tally) : Outcome → Tally
  | .skipped => { tally with skipped := tally.skipped + 1 }
  | .failed .. => { tally with failed := tally.failed + 1 }
  | .completed completion =>
    let upserted := tally.upserted + completion.upserted
    if completion.cutShort then { tally with cutShort := tally.cutShort + 1, upserted }
    else { tally with completed := tally.completed + 1, upserted }

end Roster.Refresh
