import Roster.Text.LowerCase
import Roster.Text.Numeral

namespace Roster.Settings

/-! Variables of the environment. A value that is not well-formed text counts as not set, and a
number that cannot be read counts as its default. -/

structure Environment where
  entries : List (String × List UInt8)

namespace Environment

def text? (env : Environment) (name : String) : Option String :=
  (env.entries.lookup name).bind fun bytes => String.fromUTF8? ⟨bytes.toArray⟩

def textOr (env : Environment) (name default : String) : String := (env.text? name).getD default

/-- A count below `limit`. -/
def numberOr (env : Environment) (limit : Nat) (name : String) (default : Nat) : Nat :=
  ((env.text? name).bind fun text => Text.numeral? limit (Text.trim text)).getD default

/-- A flag is set by every text but `false` and `0`. -/
def flagOr (env : Environment) (name : String) (default : Bool) : Bool :=
  match env.text? name with
  | some text =>
    let word := Text.lowerCase (Text.trim text)
    word != "false" && word != "0"
  | none => default

end Environment

end Roster.Settings
