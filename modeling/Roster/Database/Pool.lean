import Roster.Database.Server
import Roster.Problem
import Roster.Settings

namespace Roster.Database

/-! Sessions that are used again and again. No more than the capacity are lent at a time; one that
is given back waits at the end of the queue. A session that the server has ended is noticed when it
is about to be lent. -/

structure Pool where
  capacity : Nat
  /-- Sessions that nobody uses; the first is lent next. -/
  idle : List Session := []
  lent : List Session := []
  closed : Bool := false
  deriving DecidableEq, Inhabited

namespace Pool

/-- The pool for the settings of a database; sessions are opened when they are needed. -/
def ofSettings (settings : Settings.Database) : Except Problem Pool :=
  if settings.name = "" then
    .error (.internalError
      "Failed to create pool: Config: configuration property \"dbname\" not found")
  else .ok { capacity := settings.maxSize }

def size (pool : Pool) : Nat := pool.idle.length + pool.lent.length

def available (pool : Pool) : Nat := pool.idle.length

inductive Checkout where
  | reuse (session : Session)
  /-- A new session has to be opened. -/
  | connect
  | refused (failure : Failure)

def lend (pool : Pool) (session : Session) : Pool := { pool with lent := session :: pool.lent }

def checkout (pool : Pool) (isOpen : Session → Bool) : Pool × Checkout :=
  if pool.closed then (pool, .refused .poolClosed)
  else if pool.capacity ≤ pool.lent.length then (pool, .refused .exhausted)
  else
    match pool.idle.dropWhile (!isOpen ·) with
    | [] => ({ pool with idle := [] }, .connect)
    | session :: idle => ({ pool with idle }.lend session, .reuse session)

/-- Takes a lent session out of the pool for good. -/
def detach (pool : Pool) (session : Session) : Pool :=
  { pool with lent := pool.lent.erase session }

def giveBack (pool : Pool) (session : Session) : Pool :=
  let pool := pool.detach session
  if pool.closed then pool else { pool with idle := pool.idle ++ [session] }

@[simp] theorem lent_giveBack (pool : Pool) (session : Session) :
    (pool.giveBack session).lent = pool.lent.erase session := by
  unfold giveBack
  dsimp only
  split <;> rfl

@[simp] theorem capacity_giveBack (pool : Pool) (session : Session) :
    (pool.giveBack session).capacity = pool.capacity := by
  unfold giveBack
  dsimp only
  split <;> rfl

@[simp] theorem closed_giveBack (pool : Pool) (session : Session) :
    (pool.giveBack session).closed = pool.closed := by
  unfold giveBack
  dsimp only
  split <;> rfl

def close (pool : Pool) : Pool := { pool with idle := [], closed := true }

end Pool

end Roster.Database
