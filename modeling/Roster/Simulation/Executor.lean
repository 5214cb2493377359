import Roster.Time.Instant

namespace Roster.Simulation

/-! Tasks that share a world and run by turns. A turn lasts until the task has to wait, for a point
of virtual time or for mail under a ticket. Tasks that can go on do so in the order in which they
became able to; the clock moves only when none can. -/

inductive Wake (Message : Type) where
  | due
  | mail (message : Message)

inductive Pause (Task Ticket Result : Type) where
  /-- Waits until a point of time or for mail, whichever comes first. -/
  | suspended (due : Option Instant) (ticket : Option Ticket) (task : Task)
  | finished (result : Result)
  /-- The task has failed beyond repair; what it held has been given up. -/
  | crashed

structure Turn (World Task Ticket Message Result : Type) where
  world : World
  mail : List (Ticket × Message) := []
  pause : Pause Task Ticket Result

structure Behaviour (World Task Ticket Message Result : Type) where
  resume : World → Instant → Task → Wake Message → Turn World Task Ticket Message Result
  /-- Gives up what a waiting task holds. -/
  cancel : World → Task → World × List (Ticket × Message)

inductive Ending (Result : Type) where
  | finished (result : Result)
  | aborted
  | panicked

structure Sleeper (Task Ticket : Type) where
  id : Nat
  task : Task
  ticket : Option Ticket

structure Executor (World Task Ticket Message Result : Type) where
  world : World
  now : Instant := ⟨0⟩
  nextId : Nat := 0
  sleepers : List (Sleeper Task Ticket) := []
  /-- Tasks that can go on, first come first served. -/
  ready : List (Nat × Wake Message) := []
  /-- Points of time that tasks wait for, ascending; equal ones in the order of their tasks. -/
  timers : List (Instant × Nat) := []
  endings : List (Nat × Ending Result) := []

namespace Executor

variable {World Task Ticket Message Result : Type} [DecidableEq Ticket]

def insertTimer (due : Instant) (id : Nat) : List (Instant × Nat) → List (Instant × Nat)
  | [] => [(due, id)]
  | timer :: rest =>
    if due < timer.1 then (due, id) :: timer :: rest else timer :: insertTimer due id rest

def sleeper? (exec : Executor World Task Ticket Message Result) (id : Nat) :
    Option (Sleeper Task Ticket) :=
  exec.sleepers.find? fun sleeper => sleeper.id == id

/-- Takes a task out of everything that it waits in. -/
def remove (exec : Executor World Task Ticket Message Result) (id : Nat) :
    Executor World Task Ticket Message Result :=
  { exec with
    sleepers := exec.sleepers.filter fun sleeper => sleeper.id != id
    timers := exec.timers.filter fun timer => timer.2 != id
    ready := exec.ready.filter fun entry => entry.1 != id }

/-- Hands mail to the task that waits for it; mail for nobody is lost. -/
def deliver (exec : Executor World Task Ticket Message Result) (ticket : Ticket)
    (message : Message) : Executor World Task Ticket Message Result :=
  match exec.sleepers.find? fun sleeper => sleeper.ticket == some ticket with
  | none => exec
  | some sleeper =>
    { exec with
      sleepers := exec.sleepers.map fun other =>
        if other.id == sleeper.id then { other with ticket := none } else other
      timers := exec.timers.filter fun timer => timer.2 != sleeper.id
      ready := exec.ready ++ [(sleeper.id, .mail message)] }

def deliverAll (exec : Executor World Task Ticket Message Result)
    (mail : List (Ticket × Message)) : Executor World Task Ticket Message Result :=
  mail.foldl (fun exec (ticket, message) => exec.deliver ticket message) exec

def record (exec : Executor World Task Ticket Message Result) (id : Nat)
    (ending : Ending Result) : Executor World Task Ticket Message Result :=
  { exec.remove id with endings := exec.endings ++ [(id, ending)] }

def park (exec : Executor World Task Ticket Message Result) (sleeper : Sleeper Task Ticket) :
    Executor World Task Ticket Message Result :=
  { exec with sleepers := exec.sleepers ++ [sleeper] }

/-- The state after a turn. A point of time that is not ahead is no wait. -/
def afterTurn (exec : Executor World Task Ticket Message Result) (id : Nat)
    (turn : Turn World Task Ticket Message Result) : Executor World Task Ticket Message Result :=
  let exec := { exec with world := turn.world }.deliverAll turn.mail
  match turn.pause with
  | .finished result => exec.record id (.finished result)
  | .crashed => exec.record id .panicked
  | .suspended none ticket task => (exec.remove id).park { id, task, ticket }
  | .suspended (some due) ticket task =>
    if due ≤ exec.now then
      let exec := (exec.remove id).park { id, task, ticket := none }
      { exec with ready := (id, .due) :: exec.ready }
    else
      let exec := (exec.remove id).park { id, task, ticket }
      { exec with timers := insertTimer due id exec.timers }

/-- Gives a turn to the task that has been able to go on for longest. -/
def step (behaviour : Behaviour World Task Ticket Message Result)
    (exec : Executor World Task Ticket Message Result) :
    Executor World Task Ticket Message Result :=
  match exec.ready with
  | [] => exec
  | (id, wake) :: rest =>
    let exec := { exec with ready := rest }
    match exec.sleeper? id with
    | none => exec
    | some sleeper =>
      exec.afterTurn id (behaviour.resume exec.world exec.now sleeper.task wake)

/-- Gives turns until every task waits, or so many turns have been given. -/
def settleWithin (behaviour : Behaviour World Task Ticket Message Result) :
    Nat → Executor World Task Ticket Message Result → Executor World Task Ticket Message Result
  | 0, exec => exec
  | turns + 1, exec =>
    if exec.ready.isEmpty then exec else settleWithin behaviour turns (exec.step behaviour)

/-- More turns than any run takes. -/
def turnLimit : Nat := 1000000000000

def settle (behaviour : Behaviour World Task Ticket Message Result)
    (exec : Executor World Task Ticket Message Result) :
    Executor World Task Ticket Message Result :=
  exec.settleWithin behaviour turnLimit

def spawn (exec : Executor World Task Ticket Message Result) (task : Task) :
    Executor World Task Ticket Message Result × Nat :=
  ({ exec with
    nextId := exec.nextId + 1
    sleepers := exec.sleepers ++ [⟨exec.nextId, task, none⟩]
    ready := exec.ready ++ [(exec.nextId, .due)] }, exec.nextId)

def abort (behaviour : Behaviour World Task Ticket Message Result)
    (exec : Executor World Task Ticket Message Result) (id : Nat) :
    Executor World Task Ticket Message Result :=
  match exec.sleeper? id with
  | none => exec
  | some sleeper =>
    let (world, mail) := behaviour.cancel exec.world sleeper.task
    ({ exec with world }.record id .aborted).deliverAll mail

/-- Moves the clock to a point of time and wakes the tasks that wait for it. -/
def reach (exec : Executor World Task Ticket Message Result) (now : Instant) :
    Executor World Task Ticket Message Result :=
  let (due, later) := exec.timers.span fun timer => decide (timer.1 ≤ now)
  { exec with now, timers := later, ready := exec.ready ++ due.map fun timer => (timer.2, .due) }

/-- Moves the clock from one awaited point of time to the next, none beyond `last`, until a
condition holds. -/
def runWithin (behaviour : Behaviour World Task Ticket Message Result) (last : Option Instant)
    (stop : Executor World Task Ticket Message Result → Bool) :
    Nat → Executor World Task Ticket Message Result → Executor World Task Ticket Message Result
  | 0, exec => exec
  | rounds + 1, exec =>
    if stop exec then exec
    else
      match exec.timers with
      | [] => exec
      | (due, _) :: _ =>
        let beyond :=
          match last with
          | some last => decide (last < due)
          | none => false
        if beyond then exec
        else runWithin behaviour last stop rounds ((exec.reach due).settle behaviour)

/-- Lets a span of time pass. -/
def advance (behaviour : Behaviour World Task Ticket Message Result)
    (exec : Executor World Task Ticket Message Result) (nanos : Nat) :
    Executor World Task Ticket Message Result :=
  let last : Instant := ⟨exec.now.nanos + nanos⟩
  { exec.runWithin behaviour (some last) (fun _ => false) turnLimit with now := last }

def ending? (exec : Executor World Task Ticket Message Result) (id : Nat) :
    Option (Ending Result) := exec.endings.lookup id

def await (behaviour : Behaviour World Task Ticket Message Result)
    (exec : Executor World Task Ticket Message Result) (id : Nat) :
    Executor World Task Ticket Message Result :=
  exec.runWithin behaviour none (fun exec => (exec.ending? id).isSome) turnLimit

end Executor

end Roster.Simulation
