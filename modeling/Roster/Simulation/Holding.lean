import Roster.LockTable

namespace Roster.Simulation

/-! Leases kept under names. A new lease under a name is taken before the old one is given up. -/

structure Holding where
  table : LockTable := {}
  kept : List (String × Lease) := []
  deriving Inhabited

namespace Holding

def lease? (holding : Holding) (name : String) : Option Lease := holding.kept.lookup name

def forget (holding : Holding) (name : String) : Holding :=
  { holding with kept := holding.kept.filter fun entry => entry.1 != name }

def drop (holding : Holding) (name : String) : Holding :=
  match holding.lease? name with
  | some lease => { holding with table := holding.table.free lease }.forget name
  | none => holding

/-- Takes a lock and keeps the lease, if the lock is free. -/
def hold (holding : Holding) (name : String) (key : LockKey) : Holding × Bool :=
  match holding.table.tryLock key with
  | (table, some lease) =>
    let dropped := { holding with table }.drop name
    ({ dropped with kept := (name, lease) :: dropped.kept }, true)
  | (table, none) => ({ holding with table }, false)

end Holding

end Roster.Simulation
