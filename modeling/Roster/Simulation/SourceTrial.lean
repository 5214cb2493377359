import Roster.Simulation.Bench
import Roster.Simulation.ScriptedSource
import Roster.Source.Client
import Roster.Source.Walk

namespace Roster.Simulation.SourceTrial

/-! Pages fetched one at a time or in walks, from a scripted source. -/

structure World where
  client : Source.Client
  source : ScriptedSource

inductive Goal where
  | page
  /-- So many more pages of a walk, or all. -/
  | walk (walk : Source.Walk) (left : Option Nat) (seen : List SourcePage)

inductive Result where
  | page (result : Except SourceError SourcePage)
  | walk (pages : List SourcePage) (error : Option SourceError) (ended : Bool)

inductive Task where
  | starting (page : UInt32) (goal : Goal)
  | asking (fetch : Source.Fetch) (goal : Goal)
  | pausing (fetch : Source.Fetch) (goal : Goal)

abbrev TrialTurn := Turn World Task Unit Unit Result

/-- A walk that stops after so many pages, or goes on to the end. -/
def walk (take : Option Nat) : Task := .starting 1 (.walk {} take [])

/-- What becomes of a goal when its page has come or failed. -/
def conclude (result : Except SourceError SourcePage) : Goal → Result ⊕ UInt32 × Goal
  | .page => .inl (.page result)
  | .walk walk left seen =>
    let walk := walk.advance result
    match result with
    | .error error => .inl (.walk seen.reverse (some error) walk.hasEnded)
    | .ok page =>
      let seen := page :: seen
      let left := left.map (· - 1)
      match walk.next with
      | none => .inl (.walk seen.reverse none (left ≠ some 0))
      | some number => .inr (number, .walk walk left seen)

def proceed (world : World) (now : Instant) (goal : Goal) (next : Source.Client × Source.Fetch.Next) :
    TrialTurn :=
  let world := { world with client := next.1 }
  match next.2 with
  | .ask fetch =>
    let (source, due) := world.source.receive fetch.page now
    { world := { world with source }, pause := .suspended (some due) none (.asking fetch goal) }
  | .pause span fetch =>
    { world, pause := .suspended (some ⟨now.nanos + span.nanos⟩) none (.pausing fetch goal) }
  | .done result =>
    match conclude result goal with
    | .inl result => { world, pause := .finished result }
    | .inr (page, goal) => { world, pause := .suspended (some now) none (.starting page goal) }

def resume (world : World) (now : Instant) (task : Task) (_ : Wake Unit) : TrialTurn :=
  match task with
  | .starting _ (.walk _ (some 0) seen) =>
    { world, pause := .finished (.walk seen.reverse none false) }
  | .starting page goal => proceed world now goal (world.client.fetch page now)
  | .asking fetch goal =>
    let (source, result) := world.source.answer fetch.page
    proceed { world with source } now goal (world.client.answer fetch result 0 now)
  | .pausing fetch goal => proceed world now goal (world.client.ask fetch)

def behaviour : Behaviour World Task Unit Unit Result := ⟨resume, fun world _ => (world, [])⟩

end Roster.Simulation.SourceTrial
