import Roster.Character
import Roster.Source.Error
import Roster.Time.Instant

namespace Roster.Simulation

/-! A source with fixed pages that fails as it is told to. -/

/-- A failure that a page has in store for so many requests. -/
structure QueuedFailure where
  page : UInt32
  times : Nat
  error : SourceError

structure ScriptedSource where
  pages : List SourcePage := []
  /-- What every request takes, in nanoseconds. -/
  delay : Nat := 0
  /-- Failures still to come, in order for each page. -/
  failures : List QueuedFailure := []
  reachable : Bool := true
  requests : Nat := 0
  /-- The latest requests and when they came, newest first. -/
  log : List (UInt32 × Instant) := []

namespace ScriptedSource

/-- Takes a request; the answer is due after the delay. -/
def receive (source : ScriptedSource) (page : UInt32) (now : Instant) :
    ScriptedSource × Instant :=
  ({ source with requests := source.requests + 1, log := (page, now) :: source.log },
    ⟨now.nanos + source.delay⟩)

/-- The pages asked for since the log was emptied, each with the milliseconds since the request before
it, or since the start. -/
def waits (source : ScriptedSource) (start : Instant) : List (UInt32 × Nat) :=
  let requests := source.log.reverse
  requests.zipWith (fun (page, time) before => (page, time.since before / 1000000))
    (start :: requests.map (·.2))

/-- The first failure in store for a page, and those that are left then. -/
def takeFailure (page : UInt32) : List QueuedFailure → Option SourceError × List QueuedFailure
  | [] => (none, [])
  | failure :: rest =>
    if failure.page = page ∧ 0 < failure.times then
      (some failure.error, { failure with times := failure.times - 1 } :: rest)
    else
      let (error, left) := takeFailure page rest
      (error, failure :: left)

def page? (source : ScriptedSource) (page : UInt32) : Option SourcePage :=
  if page = 0 then none else source.pages[page.toNat - 1]?

def answer (source : ScriptedSource) (page : UInt32) :
    ScriptedSource × Except SourceError SourcePage :=
  match takeFailure page source.failures with
  | (some error, failures) => ({ source with failures }, .error error)
  | (none, failures) =>
    ({ source with failures },
      match source.page? page with
      | some found => .ok found
      | none => .error (.fatal page (some 404) "There is nothing here"))

def fail (source : ScriptedSource) (page : UInt32) (times : Nat) (error : SourceError) :
    ScriptedSource :=
  { source with failures := source.failures ++ [⟨page, times, error⟩] }

end ScriptedSource

end Roster.Simulation
