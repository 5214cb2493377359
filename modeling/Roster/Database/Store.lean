import Roster.Database.Pool
import Roster.Listing.Page

namespace Roster.Database

/-! A store that keeps its characters in a database, with locks that live as long as the sessions in
which they were taken. Each operation borrows a session from the pool; a lease keeps its session
until the lock is given up. -/

structure Store (σ : Type) where
  pool : Pool
  state : σ

structure Lease where
  key : LockKey
  session : Session
  deriving DecidableEq

namespace Store

variable {σ α : Type} (server : Server σ)

/-- Borrows a session, which is opened if there is none to use again. -/
def borrow (store : Store σ) : Store σ × Except Failure Session :=
  match store.pool.checkout (server.isOpen store.state) with
  | (pool, .reuse session) => ({ store with pool }, .ok session)
  | (pool, .refused failure) => ({ store with pool }, .error failure)
  | (pool, .connect) =>
    match server.connect store.state with
    | (state, .ok session) => ({ pool := pool.lend session, state }, .ok session)
    | (state, .error failure) => ({ pool, state }, .error failure)

def giveBack (store : Store σ) (session : Session) : Store σ :=
  { store with pool := store.pool.giveBack session }

def discard (store : Store σ) (session : Session) : Store σ where
  pool := store.pool.detach session
  state := server.disconnect store.state session

def runIn (store : Store σ) (session : Session) (script : Script α) :
    Store σ × Except Failure α :=
  let (state, result) := server.run session store.state script
  ({ store with state }, result)

def run (store : Store σ) (script : Script α) : Store σ × Except Failure α :=
  match borrow server store with
  | (store, .error failure) => (store, .error failure)
  | (store, .ok session) =>
    let (store, result) := runIn server store session script
    (store.giveBack session, result)

/-- Carries out an operation, after which its failures are named. -/
def perform (store : Store σ) (operation : String) (script : Script α) :
    Store σ × Except StoreError α :=
  let (store, result) := run server store script
  (store, result.mapError (Failure.toStoreError operation))

/-- Writes characters; no characters need no session. -/
def upsert (store : Store σ) (characters : List Character) : Store σ × Except StoreError Nat :=
  if characters.isEmpty then (store, .ok 0)
  else perform server store "upsert" (.upsert characters)

/-- A number of rows; there are no fewer than none. -/
def rowCount (total : Int64) : Nat := total.toInt.toNat

def readRows (rows : List Row) : Except StoreError (List Character) :=
  (rows.mapM Row.character).mapError (Failure.toStoreError "decode")

/-- The largest offset that the database can be asked for. -/
def maxOffset : Nat := 0x7FFFFFFFFFFFFFFF

def query (store : Store σ) (query : Listing.Query) :
    Store σ × Except StoreError Listing.Slice :=
  if maxOffset < query.offset then (store, .error (.invalidQuery "page offset out of range"))
  else
    let (store, result) := perform server store "query" (.query query)
    (store, result.bind fun (total, rows) =>
      (readRows rows).map fun records => .ofRows query records (rowCount total))

def count (store : Store σ) : Store σ × Except StoreError Nat :=
  let (store, result) := perform server store "count" .count
  (store, result.map rowCount)

def ping (store : Store σ) : Store σ × Except StoreError Unit := perform server store "ping" .ping

def createSchema (store : Store σ) : Store σ × Except Problem Unit :=
  let (store, result) := perform server store "database" .createSchema
  (store, result.mapError .ofStoreError)

/-- Takes a lock unless it is held. A session that has not got it goes back to the pool. -/
def tryLock (store : Store σ) (key : LockKey) : Store σ × Except StoreError (Option Lease) :=
  match borrow server store with
  | (store, .error failure) => (store, .error (failure.toStoreError "lock"))
  | (store, .ok session) =>
    match runIn server store session (.tryLock key) with
    | (store, .ok true) => (store, .ok (some ⟨key, session⟩))
    | (store, .ok false) => (store.giveBack session, .ok none)
    | (store, .error failure) =>
      (store.giveBack session, .error (failure.toStoreError "lock"))

/-- Gives up a lock. If that fails, the lock goes with its session. -/
def release (store : Store σ) (lease : Lease) : Store σ × Except StoreError Unit :=
  match runIn server store lease.session (.unlock lease.key) with
  | (store, .ok _) => (store.giveBack lease.session, .ok ())
  | (store, .error failure) =>
    (discard server store lease.session, .error (failure.toStoreError "unlock"))

def drop (store : Store σ) (lease : Lease) : Store σ := discard server store lease.session

def close (store : Store σ) : Store σ where
  pool := store.pool.close
  state := store.pool.idle.foldl server.disconnect store.state

end Store

end Roster.Database
