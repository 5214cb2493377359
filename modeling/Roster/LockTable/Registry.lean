import Mathlib.Logic.Function.Basic
import Roster.LockTable

namespace Roster.LockTable

/-! Lock tables behind any number of handles. Handles with the same home are clones of each other:
behind them is one table. A lease is unlocked when it is released and again when it is dropped,
however late that is. -/

inductive Fate where
  | held
  | released
  | dropped
  deriving DecidableEq

/-- A lease, and the table that it was taken from. -/
structure Grant where
  home : Nat
  lease : Lease
  fate : Fate := .held

namespace Grant

def entry (grant : Grant) : LockKey × Nat := (grant.lease.key, grant.lease.token)

def IsHeld (grant : Grant) (place : Nat) : Prop := grant.home = place ∧ grant.fate = .held

instance (grant : Grant) (place : Nat) : Decidable (grant.IsHeld place) :=
  inferInstanceAs (Decidable (_ ∧ _))

end Grant

structure Registry where
  tables : Nat → LockTable := fun _ => {}
  grants : List Grant := []

namespace Registry

inductive Event where
  | tryLock (handle : Nat) (key : LockKey)
  | release (grant : Nat)
  | drop (grant : Nat)

def tryLock (registry : Registry) (place : Nat) (key : LockKey) : Registry :=
  match (registry.tables place).tryLock key with
  | (table, some lease) =>
    { tables := Function.update registry.tables place table
      grants := registry.grants ++ [{ home := place, lease }] }
  | (table, none) => { registry with tables := Function.update registry.tables place table }

def unlock (registry : Registry) (id : Nat) (fate : Fate) : Registry :=
  match registry.grants[id]? with
  | some grant =>
    let (table, lease) := (registry.tables grant.home).unlock grant.lease
    { tables := Function.update registry.tables grant.home table
      grants := registry.grants.set id { grant with lease, fate } }
  | none => registry

def step (home : Nat → Nat) (registry : Registry) : Event → Registry
  | .tryLock handle key => registry.tryLock (home handle) key
  | .release id => registry.unlock id .released
  | .drop id => registry.unlock id .dropped

def run (home : Nat → Nat) (registry : Registry) (events : List Event) : Registry :=
  events.foldl (step home) registry

end Registry

end Roster.LockTable
