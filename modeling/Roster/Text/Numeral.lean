namespace Roster.Text

/-! Reading a count written in decimal digits. -/

/-- Why a text is no count below the limit. -/
inductive NumeralError where
  | empty
  | invalidDigit
  | tooLarge
  deriving DecidableEq

namespace NumeralError

def message : NumeralError → String
  | empty => "cannot parse integer from empty string"
  | invalidDigit => "invalid digit found in string"
  | tooLarge => "number too large to fit in target type"

end NumeralError

namespace Numeral

def digit? (c : Char) : Option Nat :=
  if c.isDigit then some (c.toNat - '0'.toNat) else none

/-- Appends digits to a count, stopping at the first that is no digit or passes the limit. -/
def extend (limit : Nat) (count : Nat) : List Char → Except NumeralError Nat
  | [] => .ok count
  | c :: rest =>
    match digit? c with
    | none => .error .invalidDigit
    | some d =>
      if count * 10 + d < limit then extend limit (count * 10 + d) rest else .error .tooLarge

end Numeral

/-- A count below `limit`, which a plus sign may precede. -/
def numeral (limit : Nat) (text : String) : Except NumeralError Nat :=
  match text.toList with
  | [] => .error .empty
  | ['+'] => .error .invalidDigit
  | '+' :: digits => Numeral.extend limit 0 digits
  | digits => Numeral.extend limit 0 digits

def numeral? (limit : Nat) (text : String) : Option Nat := (numeral limit text).toOption

end Roster.Text
