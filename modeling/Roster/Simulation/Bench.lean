import Roster.Simulation.Executor

namespace Roster.Simulation

/-! A run in steps: tasks are started under names, waited for or stopped, and what has ended is
reported once. -/

structure Bench (World Task Ticket Message Result : Type) where
  exec : Executor World Task Ticket Message Result
  /-- Tasks whose endings have not been reported. -/
  names : List (String × Nat) := []

namespace Bench

variable {World Task Ticket Message Result : Type} [DecidableEq Ticket]

def start (world : World) : Bench World Task Ticket Message Result := { exec := { world } }

def world (bench : Bench World Task Ticket Message Result) : World := bench.exec.world

def setWorld (bench : Bench World Task Ticket Message Result) (world : World) :
    Bench World Task Ticket Message Result :=
  { bench with exec := { bench.exec with world } }

def now (bench : Bench World Task Ticket Message Result) : Instant := bench.exec.now

def spawn (behaviour : Behaviour World Task Ticket Message Result)
    (bench : Bench World Task Ticket Message Result) (name : String) (task : Task) :
    Bench World Task Ticket Message Result :=
  let (exec, id) := bench.exec.spawn task
  { exec := exec.settle behaviour
    names := bench.names.filter (fun entry => entry.1 != name) ++ [(name, id)] }

def call (behaviour : Behaviour World Task Ticket Message Result)
    (bench : Bench World Task Ticket Message Result) (task : Task) :
    Bench World Task Ticket Message Result × Option (Ending Result) :=
  let (exec, id) := bench.exec.spawn task
  let exec := (exec.settle behaviour).await behaviour id
  ({ bench with exec }, exec.ending? id)

/-- Waits for a task and reports its ending, unless it has been reported. -/
def join (behaviour : Behaviour World Task Ticket Message Result)
    (bench : Bench World Task Ticket Message Result) (name : String) :
    Bench World Task Ticket Message Result × Option (Ending Result) :=
  match bench.names.lookup name with
  | none => (bench, none)
  | some id =>
    let exec := bench.exec.await behaviour id
    ({ exec, names := bench.names.filter fun entry => entry.1 != name }, exec.ending? id)

def abort (behaviour : Behaviour World Task Ticket Message Result)
    (bench : Bench World Task Ticket Message Result) (name : String) :
    Bench World Task Ticket Message Result :=
  match bench.names.lookup name with
  | none => bench
  | some id => { bench with exec := (bench.exec.abort behaviour id).settle behaviour }

def advance (behaviour : Behaviour World Task Ticket Message Result)
    (bench : Bench World Task Ticket Message Result) (millis : Nat) :
    Bench World Task Ticket Message Result :=
  { bench with exec := bench.exec.advance behaviour (millis * 1000000) }

/-- Hands mail to whoever waits for it. -/
def post (behaviour : Behaviour World Task Ticket Message Result)
    (bench : Bench World Task Ticket Message Result) (ticket : Ticket) (message : Message) :
    Bench World Task Ticket Message Result :=
  { bench with exec := (bench.exec.deliver ticket message).settle behaviour }

def insertNamed {α : Type} (entry : String × α) : List (String × α) → List (String × α)
  | [] => [entry]
  | other :: rest =>
    if entry.1 < other.1 then entry :: other :: rest else other :: insertNamed entry rest

/-- Reports the tasks that have ended, in the order of their names. -/
def takeEnded (bench : Bench World Task Ticket Message Result) :
    Bench World Task Ticket Message Result × List (String × Ending Result) :=
  let ended := bench.names.filterMap fun (name, id) =>
    (bench.exec.ending? id).map fun ending => (name, ending)
  let running := bench.names.filter fun entry => (bench.exec.ending? entry.2).isNone
  ({ bench with names := running }, ended.foldl (fun sorted entry => insertNamed entry sorted) [])

end Bench

end Roster.Simulation
