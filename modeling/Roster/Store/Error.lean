import Roster.Listing.Query

namespace Roster

/-! Failures of a store. One that may pass if the operation is repeated is transient. -/

inductive StoreError where
  | invalidQuery (reason : String)
  | transient (operation reason : String)
  | fatal (operation reason : String)
  deriving DecidableEq, Inhabited

namespace StoreError

def isTransient : StoreError → Bool
  | transient .. => true
  | _ => false

def kind : StoreError → String
  | invalidQuery _ => "invalid_query"
  | transient .. => "transient"
  | fatal .. => "fatal"

def reason : StoreError → String
  | invalidQuery reason => reason
  | transient _ reason => reason
  | fatal _ reason => reason

/-- The operation that failed; a query that was refused names none. -/
def operation? : StoreError → Option String
  | invalidQuery _ => none
  | transient operation _ => some operation
  | fatal operation _ => some operation

def message : StoreError → String
  | invalidQuery reason => "Invalid query: " ++ reason
  | transient operation reason =>
    "Transient store failure during " ++ operation ++ ": " ++ reason
  | fatal operation reason => "Store failure during " ++ operation ++ ": " ++ reason

/-- The same failure, met by another operation. -/
def during (operation : String) : StoreError → StoreError
  | invalidQuery reason => invalidQuery reason
  | transient _ reason => transient operation reason
  | fatal _ reason => fatal operation reason

def ofQueryError (error : Listing.QueryError) : StoreError := invalidQuery error.message

end StoreError

end Roster
