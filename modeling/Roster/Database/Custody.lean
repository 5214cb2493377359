import Roster.Database.Store

namespace Roster.Database

/-! Sessions that take locks and give them up, and who has them. A call waits for each answer of the
server, and its caller may lose patience at any of these waits. -/

/-- How a request fares. -/
inductive Mood where
  | obliging
  /-- It is not carried out. -/
  | refusing (failure : Failure)
  /-- It is carried out, but the answer is a failure. -/
  | losing (failure : Failure)
  /-- It is carried out, but the answer tells nothing about it. -/
  | garbling (answer : Answer)
  /-- It is the end of its session. -/
  | ending

/-- A server whose sessions may take the same lock several times. -/
structure LockServer where
  /-- An entry for each time that a session has taken a lock. -/
  held : List (Session × LockKey) := []
  /-- Locks that are held by others. -/
  foreign : List LockKey := []
  opened : Nat := 0
  ended : List Session := []
  /-- How the next requests fare. -/
  moods : List Mood := []

namespace LockServer

def locks (server : LockServer) (session : Session) : List LockKey :=
  (server.held.filter (·.1 == session)).map Prod.snd

def mood (server : LockServer) : Mood := server.moods.headD .obliging

def turn (server : LockServer) : LockServer := { server with moods := server.moods.tail }

/-- Whether nobody but the session itself holds a lock. -/
def isFree (server : LockServer) (session : Session) (key : LockKey) : Bool :=
  !server.foreign.contains key &&
    server.held.all fun entry => entry.2 != key || entry.1 == session

def flag (value : Bool) : Answer := { rows := [[.bool value]] }

def execute (server : LockServer) (session : Session) : Statement → LockServer × Answer
  | .tryLock key =>
    if server.isFree session key then
      ({ server with held := (session, key) :: server.held }, flag true)
    else (server, flag false)
  | .unlock key =>
    if server.held.contains (session, key) then
      ({ server with held := server.held.erase (session, key) }, flag true)
    else (server, flag false)
  | _ => (server, {})

def carryOut (server : LockServer) (session : Session) : Request → LockServer × Answer
  | .prepare _ => (server, {})
  | .execute statement => server.execute session statement

def disconnect (server : LockServer) (session : Session) : LockServer :=
  { server with
    ended := session :: server.ended
    held := server.held.filter (·.1 != session) }

def connect (server : LockServer) : LockServer × Except Failure Session :=
  match server.mood with
  | .refusing failure | .losing failure => (server.turn, .error failure)
  | .ending => (server.turn, .error .unreachable)
  | _ => ({ server.turn with opened := server.opened + 1 }, .ok server.opened)

/-- An answer that reads like a flag is the true one. -/
def garble (proper answer : Answer) : Answer :=
  match Script.readFlag answer with
  | .ok _ => proper
  | .error _ => answer

def answer (server : LockServer) (session : Session) (request : Request) :
    LockServer × Except Failure Answer :=
  if server.ended.contains session then (server, .error .closed)
  else
    let (after, proper) := server.turn.carryOut session request
    match server.mood with
    | .obliging => (after, .ok proper)
    | .refusing failure => (server.turn, .error failure)
    | .losing failure => (after, .error failure)
    | .garbling answer => (after, .ok (garble proper answer))
    | .ending => (server.turn.disconnect session, .error .closed)

def isOpen (server : LockServer) (session : Session) : Bool := !server.ended.contains session

def server : Server LockServer := ⟨connect, answer, isOpen, disconnect⟩

end LockServer

namespace Script

/-- A question that has been sent, and is answered by a flag. -/
def sent (statement : Statement) : Script Bool :=
  .send (.execute statement) fun answer => .done (answer.bind readFlag)

/-- A question that is about to be prepared. -/
def begun (statement : Statement) : Script Bool :=
  .send (.prepare statement) fun
    | .ok _ => sent statement
    | .error failure => .done (.error failure)

end Script

inductive Purpose where
  | lock
  | unlock
  deriving DecidableEq

/-- A call that is under way, the session that it has to itself, and what it waits for. -/
structure Call where
  purpose : Purpose
  key : LockKey
  session : Session
  script : Script Bool

namespace Call

def lock (key : LockKey) (session : Session) : Call := ⟨.lock, key, session, .tryLock key⟩

def unlock (lease : Lease) : Call := ⟨.unlock, lease.key, lease.session, .unlock lease.key⟩

/-- Whether the session may hold the lock while the caller has no lease: the lock has been asked for
but not given, or has been given up but not taken back. -/
def isDelicate (call : Call) : Bool :=
  match call.purpose, call.script with
  | .unlock, _ => true
  | .lock, .send (.execute _) _ => true
  | .lock, _ => false

end Call

structure Custody where
  store : Store LockServer
  leases : List Lease := []
  calls : List Call := []
  /-- Sessions that have gone back to the pool at a delicate moment. -/
  strays : List Session := []

namespace Custody

inductive Event where
  | acquire (key : LockKey)
  | release (lease : Nat)
  | drop (lease : Nat)
  /-- What a call waits for is answered. -/
  | answer (call : Nat)
  /-- The caller lets the call go. The server may still get what was sent. -/
  | abandon (call : Nat) (delivered : Bool)
  | expect (moods : List Mood)
  /-- From now on others hold these locks. -/
  | others (keys : List LockKey)
  | hangUp (session : Session)

def start (capacity : Nat) : Custody := { store := { pool := { capacity }, state := {} } }

def setState (custody : Custody) (state : LockServer) : Custody :=
  { custody with store := { custody.store with state } }

def giveBack (custody : Custody) (session : Session) : Custody :=
  { custody with store := custody.store.giveBack session }

/-- Notes that the session of a call goes back to the pool before the call has come to its end. -/
def note (custody : Custody) (call : Call) : Custody :=
  if call.isDelicate then { custody with strays := call.session :: custody.strays } else custody

/-- The end of a call. -/
def settle (custody : Custody) (call : Call) : Except Failure Bool → Custody
  | .ok granted =>
    if call.purpose = .lock ∧ granted then
      { custody with leases := ⟨call.key, call.session⟩ :: custody.leases }
    else custody.giveBack call.session
  | .error _ =>
    match call.purpose with
    | .lock => (custody.note call).giveBack call.session
    | .unlock => { custody with store := custody.store.discard LockServer.server call.session }

def without (custody : Custody) (id : Nat) : Custody :=
  { custody with calls := custody.calls.eraseIdx id }

def advance (custody : Custody) (id : Nat) (call : Call) : Custody :=
  match call.script with
  | .done result => (custody.without id).settle call result
  | .send request next =>
    let (state, answer) := custody.store.state.answer call.session request
    match next answer with
    | .done result => ((custody.without id).setState state).settle call result
    | script =>
      { custody.setState state with calls := custody.calls.set id { call with script } }

/-- What the server makes of a request of which nobody waits for the answer. -/
def deliver (state : LockServer) (call : Call) : LockServer :=
  match call.script with
  | .done _ => state
  | .send request _ => (state.answer call.session request).1

def abandon (custody : Custody) (id : Nat) (call : Call) (delivered : Bool) : Custody :=
  let state := custody.store.state
  let custody := (custody.without id).setState (if delivered then deliver state call else state)
  (custody.note call).giveBack call.session

def step (custody : Custody) : Event → Custody
  | .acquire key =>
    match custody.store.borrow LockServer.server with
    | (store, .ok session) =>
      { custody with store, calls := .lock key session :: custody.calls }
    | (store, .error _) => { custody with store }
  | .release id =>
    match custody.leases[id]? with
    | some lease =>
      { custody with
        leases := custody.leases.eraseIdx id
        calls := .unlock lease :: custody.calls }
    | none => custody
  | .drop id =>
    match custody.leases[id]? with
    | some lease =>
      { custody with
        store := custody.store.drop LockServer.server lease
        leases := custody.leases.eraseIdx id }
    | none => custody
  | .answer id =>
    match custody.calls[id]? with
    | some call => custody.advance id call
    | none => custody
  | .abandon id delivered =>
    match custody.calls[id]? with
    | some call => custody.abandon id call delivered
    | none => custody
  | .expect moods => custody.setState { custody.store.state with moods }
  | .others foreign => custody.setState { custody.store.state with foreign }
  | .hangUp session => custody.setState (custody.store.state.disconnect session)

def run (custody : Custody) (events : List Event) : Custody := events.foldl step custody

end Custody

end Roster.Database
