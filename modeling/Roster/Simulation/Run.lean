import Roster.Simulation.Fixture
import Roster.Simulation.Holding
import Roster.Simulation.Cluster

namespace Roster.Simulation.Cluster

/-! A run of a cluster in steps, with leases that are held between them. -/

/-- An empty page cache, and no refresh so far. -/
def Front.new (capacity : Nat) (ttl : Span) : Front where
  pages := .new "page" capacity ttl
  freshness := { ttl := .ofSecs 600 }

namespace World

/-- A store with so many characters, and what its queries and locks take, in milliseconds. -/
def new (stored queryDelay lockDelay : Nat) : World where
  store := {
    memory := (({} : Store.Memory).upsert (Fixture.storedCharacters stored)).1
    queryDelay := queryDelay * 1000000
    lockDelay := lockDelay * 1000000 }
  time := Fixture.today

/-- Adds a replica with a front of its own, or with that of the replica it is named to share. -/
def add (world : World) (member : Member) (front : Front) (shares : Option String) : World :=
  match world.members.find? fun other => some other.name == shares with
  | some other =>
    { world with members := world.members ++ [{ member with front := other.front }] }
  | none =>
    { world with
      members := world.members ++ [{ member with front := world.fronts.length }]
      fronts := world.fronts ++ [front] }

def memberOf (world : World) (name : String) : Nat :=
  world.members.findIdx fun member => member.name == name

def clearLogs (world : World) : World :=
  { world with
    members := world.members.map fun member =>
      { member with source := { member.source with log := [] } } }

end World

structure Run where
  bench : Bench World Task Ticket Message Result
  kept : List (String × Lease) := []

/-- How a worker is told to stop. -/
inductive Farewell where
  | signal
  /-- Nobody is left who could tell it anything. -/
  | silence
  /-- First it is told not to stop, and only later to do so. -/
  | hesitation

namespace Run

def start (world : World) : Run := { bench := .start world }

def world (run : Run) : World := run.bench.world

def modify (run : Run) (change : World → World) : Run :=
  { run with bench := run.bench.setWorld (change run.world) }

def modifyStore (run : Run) (change : FaultyStore → FaultyStore) : Run :=
  run.modify fun world => { world with store := change world.store }

def modifySource (run : Run) (member : Nat) (change : ScriptedSource → ScriptedSource) : Run :=
  run.modify fun world => (world.modifySource member () fun source => (change source, ())).1

def modifyPages (run : Run) (member : Nat) (change : PageCache → PageCache) : Run :=
  run.modify fun world =>
    match world.replica? member with
    | some replica => world.put member { replica with pages := change replica.pages }
    | none => world

def call (run : Run) (member : Nat) (job : Job) : Run × Option (Ending Result) :=
  let (bench, ending) := run.bench.call behaviour ⟨member, .starting job⟩
  ({ run with bench }, ending)

def spawn (run : Run) (name : String) (member : Nat) (job : Job) : Run :=
  { run with bench := run.bench.spawn behaviour name ⟨member, .starting job⟩ }

/-- Writes to the store as nobody in the cluster does. -/
def write (run : Run) (characters : List Character) : Run × Nat :=
  let (memory, written) := run.world.store.memory.upsert characters
  (run.modifyStore fun store => { store with memory }, written)

def holding (run : Run) : Holding := { table := run.world.store.memory.locks, kept := run.kept }

def withHolding (run : Run) (holding : Holding) : Run :=
  let changed := run.modifyStore fun store =>
    { store with memory := { store.memory with locks := holding.table } }
  { changed with kept := holding.kept }

/-- A name that steps do not use. -/
def workerName : String := " worker"

def tell (run : Run) (number : Nat) (change : Refresh.Signal → Refresh.Signal) : Run :=
  let told := run.modify fun world => world.tell number (change (world.told number))
  { told with bench := told.bench.post behaviour (.signal number) .signal }

def advance (run : Run) (millis : Nat) : Run :=
  { run with bench := run.bench.advance behaviour millis }

/-- Lets a worker work for a while and stops it. -/
def work (run : Run) (member : Nat) (interval : Span) (millis : Nat) (farewell : Farewell) :
    Run × Option (Ending Result) :=
  let number := run.world.signals.length
  let started := (run.modify fun world => { world with signals := world.signals ++ [{}] }).spawn
    workerName member (.worker number interval)
  let worked := started.advance millis
  let told :=
    match farewell with
    | .signal => worked.tell number (·.send true)
    | .silence => worked.tell number Refresh.Signal.close
    | .hesitation =>
      ((worked.tell number (·.send false)).advance millis).tell number (·.send true)
  let (bench, ending) := told.bench.join behaviour workerName
  ({ told with bench }, ending)

end Run

end Roster.Simulation.Cluster
