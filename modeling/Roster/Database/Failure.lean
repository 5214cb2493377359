import Roster.Store.Error

namespace Roster.Database

/-! Why a database has not done what it was asked. What may pass if it is asked again is told from
what will not. -/

inductive Failure where
  /-- The server refused, and gave a code for the reason. -/
  | refused (code message : String)
  | closed
  | unreachable
  /-- Another number of rows than the one that was expected. -/
  | wrongRowCount
  | unreadable (column : Nat)
  /-- No session became free in time. -/
  | exhausted
  /-- The pool gives out no more sessions. -/
  | poolClosed
  deriving DecidableEq, Inhabited

namespace Failure

/-- Kinds of codes that may pass: broken connections and lacking resources. -/
def transientClasses : List String := ["08", "53"]

/-- Single codes that may pass: shut-downs, a server that is not up yet, transactions that were in
each other's way, and cancelled statements. -/
def transientCodes : List String :=
  ["57P01", "57P02", "57P03", "40001", "40P01", "57014"]

def isTransientCode (code : String) : Bool :=
  (transientClasses.any fun kind => kind.toList.isPrefixOf code.toList) ||
    transientCodes.contains code

def toStoreError (operation : String) : Failure → StoreError
  | refused code message =>
    if isTransientCode code then .transient operation message
    else .fatal operation (message ++ " (" ++ code ++ ")")
  | closed => .transient operation "connection closed"
  | unreachable => .transient operation "error connecting to server"
  | wrongRowCount => .fatal operation "query returned an unexpected number of rows"
  | unreadable column => .fatal operation ("error deserializing column " ++ toString column)
  | exhausted => .transient operation "pool timeout (Wait)"
  | poolClosed => .transient operation "pool closed"

end Failure

end Roster.Database
