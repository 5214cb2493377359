import Roster.Database.Server

namespace Roster.Simulation

/-! A database server that answers as it is told to, and notes what it is sent. -/

/-- A fault that strikes when a session is opened or a statement is sent. -/
structure Fault where
  /-- The part of the statement that the fault looks for. -/
  target : String
  /-- How many times it lets pass first. -/
  skip : Nat := 0
  times : Nat := 1
  /-- Whether it strikes when a statement is prepared, and not when it is executed. -/
  onPrepare : Bool := false
  /-- The refusal; without one the session ends. -/
  refusal : Option (String × String) := none

namespace Fault

def contains (part : List Char) : List Char → Bool
  | [] => part.isEmpty
  | char :: rest => part.isPrefixOf (char :: rest) || contains part rest

def concerns (fault : Fault) (text : String) (preparing : Bool) : Bool :=
  fault.times != 0 && fault.onPrepare == preparing &&
    contains fault.target.toList text.toList

def failure (fault : Fault) : Database.Failure :=
  match fault.refusal with
  | some (code, message) => .refused code message
  | none => .closed

/-- The first fault that is concerned decides: it lets pass, or it strikes. -/
def strike (text : String) (preparing : Bool) : List Fault → List Fault × Option Fault
  | [] => ([], none)
  | fault :: rest =>
    if fault.concerns text preparing then
      match fault.skip with
      | skip + 1 => ({ fault with skip } :: rest, none)
      | 0 => ({ fault with times := fault.times - 1 } :: rest, some fault)
    else
      let (rest, struck) := strike text preparing rest
      (fault :: rest, struck)

end Fault

structure DatabaseServer where
  total : Int64 := 0
  rows : List Database.Row := []
  /-- What the attempts at locks come to; the ones after them succeed. -/
  locks : List Bool := []
  unlocks : List Bool := []
  /-- Statements with this part bring no rows. -/
  rowless : Option String := none
  faults : List Fault := []
  refuses : Bool := false
  opened : Nat := 0
  ended : List Database.Session := []
  /-- Statements that were executed, the latest first. -/
  log : List Database.Statement := []

namespace DatabaseServer

open Database

def terminate (server : DatabaseServer) (session : Session) : DatabaseServer :=
  { server with ended := session :: server.ended }

def isOpen (server : DatabaseServer) (session : Session) : Bool :=
  !server.ended.contains session

def connect (server : DatabaseServer) : DatabaseServer × Except Failure Session :=
  if server.refuses then (server, .error .unreachable)
  else
    match Fault.strike "connect" false server.faults with
    | (faults, some fault) => ({ server with faults }, .error fault.failure)
    | (faults, none) =>
      ({ server with faults, opened := server.opened + 1 }, .ok server.opened)

def nextFlag : List Bool → List Bool × Answer
  | [] => ([], { rows := [[.bool true]] })
  | flag :: rest => (rest, { rows := [[.bool flag]] })

def respond (server : DatabaseServer) : Statement → DatabaseServer × Answer
  | .count => (server, { rows := [[.int server.total]] })
  | .select _ => (server, { rows := server.rows })
  | .upsert rows => (server, { affected := rows.length })
  | .tryLock _ =>
    let (locks, answer) := nextFlag server.locks
    ({ server with locks }, answer)
  | .unlock _ =>
    let (unlocks, answer) := nextFlag server.unlocks
    ({ server with unlocks }, answer)
  | _ => (server, {})

/-- Takes the rows from an answer that is to bring none. -/
def withhold (server : DatabaseServer) (statement : Statement) (answer : Answer) : Answer :=
  if server.rowless.any fun part => Fault.contains part.toList statement.text.toList then
    { answer with rows := [] }
  else answer

/-- Notes a statement; rollbacks are not noted. -/
def note (server : DatabaseServer) (statement : Statement) : DatabaseServer :=
  if statement = .rollback then server else { server with log := statement :: server.log }

def suffer (server : DatabaseServer) (session : Session) (fault : Fault) :
    DatabaseServer × Except Failure Answer :=
  (if fault.refusal.isSome then server else server.terminate session, .error fault.failure)

def answer (server : DatabaseServer) (session : Session) (request : Request) :
    DatabaseServer × Except Failure Answer :=
  if server.isOpen session then
    match request with
    | .prepare statement =>
      match Fault.strike statement.text true server.faults with
      | (faults, some fault) => { server with faults }.suffer session fault
      | (faults, none) => ({ server with faults }, .ok {})
    | .execute statement =>
      match Fault.strike statement.text false server.faults with
      | (faults, some fault) => ({ server with faults }.note statement).suffer session fault
      | (faults, none) =>
        let (server, answer) := ({ server with faults }.note statement).respond statement
        (server, .ok (server.withhold statement answer))
  else (server, .error .closed)

def server : Server DatabaseServer := ⟨connect, answer, isOpen, terminate⟩

def clearLog (server : DatabaseServer) : DatabaseServer := { server with log := [] }

end DatabaseServer

end Roster.Simulation
