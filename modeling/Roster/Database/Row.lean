import Roster.Character
import Roster.Database.Failure

namespace Roster.Database

/-! The rows with which a database answers. -/

inductive Value where
  | null
  | int (value : Int64)
  | text (value : String)
  | bool (value : Bool)
  deriving DecidableEq, Inhabited

abbrev Row := List Value

namespace Row

def value (row : Row) (column : Nat) : Value := row.getD column .null

def int (row : Row) (column : Nat) : Except Failure Int64 :=
  match row.value column with
  | .int value => .ok value
  | _ => .error (.unreadable column)

def bool (row : Row) (column : Nat) : Except Failure Bool :=
  match row.value column with
  | .bool value => .ok value
  | _ => .error (.unreadable column)

def text (row : Row) (column : Nat) : Except Failure String :=
  match row.value column with
  | .text value => .ok value
  | _ => .error (.unreadable column)

def text? (row : Row) (column : Nat) : Except Failure (Option String) :=
  match row.value column with
  | .text value => .ok (some value)
  | .null => .ok none
  | _ => .error (.unreadable column)

def character (row : Row) : Except Failure Character := do
  return {
    id := ← row.int 0
    name := ← row.text 1
    status := ← row.text 2
    species := ← row.text 3
    origin := ← row.text 4
    image := ← row.text? 5
    url := ← row.text? 6 }

def ofCharacter (character : Character) : Row :=
  let optional : Option String → Value
    | some text => .text text
    | none => .null
  [.int character.id, .text character.name, .text character.status, .text character.species,
    .text character.origin, optional character.image, optional character.url]

theorem character_ofCharacter (character : Character) :
    (ofCharacter character).character = .ok character := by
  obtain ⟨id, name, status, species, origin, image, url⟩ := character
  cases image <;> cases url <;> rfl

end Row

/-- What a statement brings: rows, or the number of those that it has written. -/
structure Answer where
  rows : List Row := []
  affected : Nat := 0
  deriving Inhabited

namespace Answer

def single (answer : Answer) : Except Failure Row :=
  match answer.rows with
  | [row] => .ok row
  | _ => .error .wrongRowCount

end Answer

end Roster.Database
