import Roster.Database.Store
import Roster.Simulation.DatabaseServer

namespace Roster.Simulation

/-! A store over a scripted database, with leases kept under names. A new lease under a name is taken
before the old one is dropped. -/

structure DatabaseTrial where
  store : Database.Store DatabaseServer
  kept : List (String × Database.Lease) := []

namespace DatabaseTrial

abbrev Backing := Database.Store DatabaseServer

def start (server : DatabaseServer) (capacity : Nat) : DatabaseTrial where
  store := { pool := { capacity }, state := server }

def clearLog (trial : DatabaseTrial) : DatabaseTrial :=
  { trial with store := { trial.store with state := trial.store.state.clearLog } }

def lease? (trial : DatabaseTrial) (name : String) : Option Database.Lease := trial.kept.lookup name

def use {α : Type} (trial : DatabaseTrial)
    (operation : Database.Server DatabaseServer → Backing → Backing × α) : DatabaseTrial × α :=
  let (store, result) := operation DatabaseServer.server trial.store
  ({ trial with store }, result)

/-- Drops the lease under a name, if there is one. -/
def drop (trial : DatabaseTrial) (name : String) : DatabaseTrial :=
  match trial.lease? name with
  | none => trial
  | some lease =>
    { store := trial.store.drop DatabaseServer.server lease
      kept := trial.kept.filter fun entry => entry.1 != name }

/-- Takes a lock, and keeps the lease if the lock was free. -/
def lock (trial : DatabaseTrial) (name : String) (key : LockKey) :
    DatabaseTrial × Except StoreError Bool :=
  match trial.use fun server store => store.tryLock server key with
  | (trial, .error error) => (trial, .error error)
  | (trial, .ok none) => (trial, .ok false)
  | (trial, .ok (some lease)) =>
    let trial := trial.drop name
    ({ trial with kept := (name, lease) :: trial.kept }, .ok true)

def release (trial : DatabaseTrial) (name : String) :
    DatabaseTrial × Option (Except StoreError Unit) :=
  match trial.lease? name with
  | none => (trial, none)
  | some lease =>
    let (trial, result) := trial.use fun server store => store.release server lease
    ({ trial with kept := trial.kept.filter fun entry => entry.1 != name }, some result)

def close (trial : DatabaseTrial) : DatabaseTrial :=
  { trial with store := trial.store.close DatabaseServer.server }

end DatabaseTrial

end Roster.Simulation
