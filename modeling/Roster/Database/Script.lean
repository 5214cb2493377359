import Roster.Character.Batch
import Roster.Chunks
import Roster.Database.Row
import Roster.Database.Statement

namespace Roster.Database

/-! The talk with the database that an operation takes. A script is what it sends next, and how it
goes on after each answer. Inside a transaction every failure up to the commit leads to a rollback,
whose answer does not count. -/

/-- A statement with parameters is prepared before it is executed. -/
inductive Request where
  | prepare (statement : Statement)
  | execute (statement : Statement)
  deriving DecidableEq

inductive Script (α : Type) where
  | done (result : Except Failure α)
  | send (request : Request) (next : Except Failure Answer → Script α)

namespace Script

variable {α : Type}

def statement (statement : Statement) (next : Except Failure Answer → Script α) : Script α :=
  if statement.isPrepared then
    .send (.prepare statement) fun
      | .ok _ => .send (.execute statement) next
      | .error failure => next (.error failure)
  else .send (.execute statement) next

def one (statement : Statement) (read : Answer → Except Failure α) : Script α :=
  Script.statement statement fun answer => .done (answer.bind read)

def rollback (failure : Failure) : Script α :=
  .send (.execute .rollback) fun _ => .done (.error failure)

def commit (value : α) : Script α := one .commit fun _ => .ok value

def step {β : Type} (statement : Statement) (read : Answer → Except Failure β)
    (next : β → Script α) : Script α :=
  Script.statement statement fun answer =>
    match answer.bind read with
    | .ok value => next value
    | .error failure => rollback failure

def transaction (body : Script α) : Script α := step .start (fun _ => .ok ()) fun _ => body

/-! The operations of the store. -/

/-- How many characters are written at a time. -/
def upsertChunk : Nat := 500

/-- Writes one piece after the other, then commits. -/
def writePieces : List (List Character) → Nat → Script Nat
  | [], affected => commit affected
  | piece :: rest, affected =>
    step (.upsert piece) (fun answer => .ok answer.affected) fun written =>
      writePieces rest (affected + written)

/-- Writes characters in the order of their ids; of several with one id the last. -/
def upsert (characters : List Character) : Script Nat :=
  transaction (writePieces (chunks upsertChunk (Batch.ofList characters).rows) 0)

def readCount (answer : Answer) : Except Failure Int64 := answer.single.bind (·.int 0)

/-- The number of all characters and the rows of a page, seen at one instant. -/
def query (query : Listing.Query) : Script (Int64 × List Row) :=
  transaction <|
    step .readOnly (fun _ => .ok ()) fun _ =>
      step .count readCount fun total =>
        step (.select query) (fun answer => .ok answer.rows) fun rows =>
          commit (total, rows)

def count : Script Int64 := one .count readCount

def ping : Script Unit := one .ping fun _ => .ok ()

def createSchema : Script Unit := one .createSchema fun _ => .ok ()

def readFlag (answer : Answer) : Except Failure Bool := answer.single.bind (·.bool 0)

/-- Whether the session has got the lock. -/
def tryLock (key : LockKey) : Script Bool := one (.tryLock key) readFlag

/-- Whether the session held the lock that it has given up. -/
def unlock (key : LockKey) : Script Bool := one (.unlock key) readFlag

end Script

end Roster.Database
