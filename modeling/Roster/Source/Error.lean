import Roster.Time.Span

namespace Roster

/-! Failures of the source of candidates. Transient ones are worth another attempt; a page whose
attempts are used up is unavailable. -/

inductive SourceError where
  | transient (page : UInt32) (reason : String) (retryAfter : Option Span)
  | fatal (page : UInt32) (status : Option Nat) (reason : String)
  | unavailable (page : UInt32) (attempts : Nat) (lastError : String)
  deriving DecidableEq

namespace SourceError

def isTransient : SourceError → Bool
  | transient .. => true
  | _ => false

def page : SourceError → UInt32
  | transient page .. => page
  | fatal page .. => page
  | unavailable page .. => page

def kind : SourceError → String
  | transient .. => "transient"
  | fatal .. => "fatal"
  | unavailable .. => "unavailable"

def statusText : Option Nat → String
  | some status => "Some(" ++ toString status ++ ")"
  | none => "None"

def message : SourceError → String
  | transient page reason _ =>
    "Transient upstream failure on page " ++ toString page.toNat ++ ": " ++ reason
  | fatal page status reason =>
    "Upstream rejected page " ++ toString page.toNat ++ " (status " ++ statusText status ++ "): " ++
      reason
  | unavailable page attempts lastError =>
    "Upstream unavailable on page " ++ toString page.toNat ++ " after " ++ toString attempts ++
      " attempts: " ++ lastError

instance : Inhabited SourceError := ⟨unavailable 0 0 ""⟩

end SourceError

end Roster
