import Roster.Database.Store
import Roster.Refresh.Attempt
import Roster.Refresh.Cycle

namespace Roster.Refresh

/-! A cycle that works on a database. Its lease keeps one session from the pool for as long as the cycle
goes on, and to count and to write it needs another one. -/

open Database (Server)

structure Effort (σ : Type) where
  store : Database.Store σ
  replica : Replica
  step : Cycle.Step Database.Lease

namespace Effort

variable {σ : Type} (server : Server σ)

/-- Lets happen what a cycle waits for. -/
def respond (store : Database.Store σ) (reply : Reply) :
    Cycle Database.Lease → Database.Store σ × Cycle.Answer Database.Lease
  | .acquiring mode =>
    let (store, answer) := store.tryLock server mode.lock
    (store, .lock answer)
  | .counting _ =>
    let (store, answer) := store.count server
    (store, .count answer)
  | .walking .. => (store, .walk reply.now)
  | .fetching .. => (store, .page reply.page reply.draw reply.now)
  | .pausing .. => (store, .woken)
  | .storing _ gathered _ =>
    let (store, answer) := store.upsert server gathered.kept.rows
    (store, .upsert answer reply.time)
  | .releasing lease _ => ((store.release server lease).1, .released)

def advance (effort : Effort σ) (reply : Reply) : Effort σ :=
  match effort.step with
  | .await cycle =>
    let (store, answer) := respond server effort.store reply cycle
    match cycle.take? effort.replica answer with
    | some (replica, step) => { store, replica, step }
    | none => { effort with store }
  | .ended _ => effort

def start (store : Database.Store σ) (replica : Replica) (mode : Mode) : Effort σ :=
  let (replica, cycle) := Cycle.start replica mode
  { store, replica, step := .await cycle }

/-- The effort after so many replies. -/
def after (effort : Effort σ) (script : Nat → Reply) : Nat → Effort σ
  | 0 => effort
  | steps + 1 => advance server (effort.after script steps) (script steps)

end Effort

end Roster.Refresh
