namespace Roster

/-! Locks that never wait. Whoever takes a lock gets a lease with a token of its own; only the lease
whose token is noted frees the lock, so a lease given up late does no harm to a later one. -/

abbrev LockKey := Int64

structure Lease where
  key : LockKey
  token : Nat
  /-- Whether the lease has not been given up. -/
  live : Bool := true
  deriving DecidableEq, Inhabited

structure LockTable where
  holders : List (LockKey × Nat) := []
  nextToken : Nat := 0
  deriving DecidableEq, Inhabited

namespace LockTable

def holder? (table : LockTable) (key : LockKey) : Option Nat := table.holders.lookup key

def isLocked (table : LockTable) (key : LockKey) : Bool := (table.holder? key).isSome

/-- Takes a lock unless it is held. -/
def tryLock (table : LockTable) (key : LockKey) : LockTable × Option Lease :=
  if table.isLocked key then (table, none)
  else
    ({ holders := (key, table.nextToken) :: table.holders, nextToken := table.nextToken + 1 },
      some { key, token := table.nextToken })

def unlock (table : LockTable) (lease : Lease) : LockTable × Lease :=
  let ended := { lease with live := false }
  if lease.live ∧ table.holder? lease.key = some lease.token then
    ({ table with holders := table.holders.filter fun entry => entry.1 != lease.key }, ended)
  else (table, ended)

/-- Gives up a lease that nobody uses any more. -/
def free (table : LockTable) (lease : Lease) : LockTable := (table.unlock lease).1

end LockTable

end Roster
