import Roster.Json.Decode
import Roster.Settings.Error
import Roster.Store.Error

namespace Roster

/-! What a client is told of a failure. Causes inside the service stay inside. -/

namespace Problem

/-- The kinds of failure that a client can tell apart. -/
inductive Code where
  | invalidQuery
  | transientUnavailable
  | unexpectedError
  | invalidConfiguration
  deriving DecidableEq, Inhabited

namespace Code

def name : Code → String
  | invalidQuery => "InvalidQuery"
  | transientUnavailable => "TransientUnavailable"
  | unexpectedError => "UnexpectedError"
  | invalidConfiguration => "InvalidConfiguration"

def label : Code → String
  | invalidQuery => "INVALID_QUERY"
  | transientUnavailable => "TRANSIENT_UNAVAILABLE"
  | unexpectedError => "UNEXPECTED_ERROR"
  | invalidConfiguration => "INVALID_CONFIGURATION"

def ofLabel? : String → Option Code
  | "INVALID_QUERY" => some invalidQuery
  | "TRANSIENT_UNAVAILABLE" => some transientUnavailable
  | "UNEXPECTED_ERROR" => some unexpectedError
  | "INVALID_CONFIGURATION" => some invalidConfiguration
  | _ => none

@[simp] theorem ofLabel?_label (code : Code) : ofLabel? code.label = some code := by
  cases code <;> rfl

def status : Code → Nat
  | invalidQuery => 400
  | transientUnavailable => 503
  | unexpectedError => 500
  | invalidConfiguration => 500

def defaultMessage : Code → String
  | invalidQuery => "Invalid query parameters"
  | transientUnavailable => "Service temporarily unavailable, retry shortly"
  | unexpectedError => "Unexpected server error"
  | invalidConfiguration => "Invalid configuration"

end Code

end Problem

structure Problem where
  code : Problem.Code
  message : String
  details : Option Json := none
  retryAfterSecs : Option UInt64 := none
  deriving Inhabited

namespace Problem

/-- Seconds after which a client should try again. -/
def defaultRetryAfterSecs : UInt64 := 5

def ofCode (code : Code) : Problem := { code, message := code.defaultMessage }

def invalidQuery (message : String) : Problem := { code := .invalidQuery, message }

def transientUnavailable : Problem :=
  { ofCode .transientUnavailable with retryAfterSecs := some defaultRetryAfterSecs }

def unexpected : Problem := ofCode .unexpectedError

def internalError (message : String) : Problem := { code := .unexpectedError, message }

def invalidConfiguration (message : String) : Problem := { code := .invalidConfiguration, message }

def withDetails (problem : Problem) (details : Json) : Problem :=
  { problem with details := some details }

def status (problem : Problem) : Nat := problem.code.status

def summary (problem : Problem) : String := problem.code.name ++ ": " ++ problem.message

def ofStoreError : StoreError → Problem
  | .invalidQuery reason => invalidQuery reason
  | .transient .. => transientUnavailable
  | .fatal .. => unexpected

def queryDetails : Listing.QueryError → Json
  | .unsupportedSort value => .obj [("parameter", .str "sort"), ("value", .str value)]
  | .unsupportedOrder value => .obj [("parameter", .str "order"), ("value", .str value)]
  | .invalidPage page => .obj [("parameter", .str "page"), ("value", .int page.toNat)]
  | .invalidPageSize size most =>
    .obj [("parameter", .str "page_size"), ("value", .int size.toNat), ("max", .int most.toNat)]

def ofQueryError (error : Listing.QueryError) : Problem :=
  (invalidQuery error.message).withDetails (queryDetails error)

def ofSettingsError (error : SettingsError) : Problem := invalidConfiguration error.message

/-! The body of a response. -/

def toJson (problem : Problem) : Json :=
  .obj ([("code", .str problem.code.label), ("message", .str problem.message)] ++
    (match problem.details with
      | some details => [("details", details)]
      | none => []) ++
    (match problem.retryAfterSecs with
      | some secs => [("retry_after_secs", .int secs.toNat)]
      | none => []))

/-- Details may be nested so deep that with the body around them there are 127 levels. -/
def detailsDepth : Nat := 126

def ofTree? (tree : Json.Tree) : Option Problem := do
  match ← tree.fields? ["code", "message", "details", "retry_after_secs"] with
  | [code, message, details, retryAfterSecs] =>
    return {
      code := ← code.required (Json.Tree.choice? Code.ofLabel?)
      message := ← message.required Json.Tree.text?
      details := ← details.optional (Json.Tree.json? detailsDepth)
      retryAfterSecs := ← retryAfterSecs.optional Json.Tree.uint64? }
  | _ => none

end Problem

end Roster
