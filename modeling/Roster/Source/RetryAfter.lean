import Roster.Message.Header
import Roster.Text.Blank
import Roster.Text.Numeral
import Roster.Time.Span

namespace Roster.Source

/-! The `Retry-After` header: a number of seconds in decimal digits. Dates are not understood. -/

/-- The longest wait that the other side can ask for, in seconds. -/
def maxRetryAfterSecs : UInt64 := 60

namespace RetryAfter

/-- The seconds that digits tell, or the most that a word holds if they tell more. -/
def secondsOf (digits : List Char) : UInt64 :=
  UInt64.ofNat ((Text.numeral? UInt64.size (String.ofList digits)).getD (UInt64.size - 1))

/-- The wait that a header value asks for. -/
def ofValue? (value : List UInt8) : Option Span := do
  let digits := Text.trimChars (← Message.Header.text? value)
  if digits.isEmpty || !digits.all Char.isDigit then none
  else some (Span.ofSecs (min (secondsOf digits) maxRetryAfterSecs))

/-- Only the first of several headers counts. -/
def parse : List (List UInt8) → Option Span
  | [] => none
  | value :: _ => ofValue? value

end RetryAfter

end Roster.Source
