import Roster.Decimal.Shortest

namespace Roster

/-! JSON values and their written form. A number is an integer or a double-precision number, which
is kept as its bits. -/

inductive Json where
  | null
  | bool (value : Bool)
  | int (value : Int)
  | float (bits : UInt64)
  | str (text : String)
  | arr (items : List Json)
  | obj (fields : List (String × Json))

namespace Json

instance : Inhabited Json := ⟨null⟩

def ofOption {α : Type} (toJson : α → Json) : Option α → Json
  | some a => toJson a
  | none => null

def ofText? (text : Option String) : Json := ofOption str text

def ofNat (n : Nat) : Json := int n

def hexDigit (n : Nat) : Char :=
  if n < 10 then Char.ofNat (48 + n) else Char.ofNat (87 + n)

/-- What stands for a character inside quotes: control characters, quotes and backslashes are
escaped. -/
def escape (c : Char) : List Char :=
  if c = '"' then ['\\', '"']
  else if c = '\\' then ['\\', '\\']
  else if c = '\x08' then ['\\', 'b']
  else if c = '\t' then ['\\', 't']
  else if c = '\n' then ['\\', 'n']
  else if c = '\x0c' then ['\\', 'f']
  else if c = '\r' then ['\\', 'r']
  else if c.toNat < 32 then
    ['\\', 'u', '0', '0', hexDigit (c.toNat / 16), hexDigit (c.toNat % 16)]
  else [c]

def quote (text : String) : List Char :=
  '"' :: text.toList.flatMap escape ++ ['"']

/-- Sixteen places before the point and five behind it are written out. -/
def floatLayout : Decimal.Layout := ⟨some 16, some 5, true⟩

mutual

def chars : Json → List Char
  | null => "null".toList
  | bool true => "true".toList
  | bool false => "false".toList
  | int value => (toString value).toList
  | float bits => (floatLayout.render bits).toList
  | str text => quote text
  | arr items => '[' :: itemChars items
  | obj fields => '{' :: fieldChars fields

def itemChars : List Json → List Char
  | [] => [']']
  | [item] => chars item ++ [']']
  | item :: rest => chars item ++ ',' :: itemChars rest

def fieldChars : List (String × Json) → List Char
  | [] => ['}']
  | [(name, value)] => quote name ++ ':' :: chars value ++ ['}']
  | (name, value) :: rest => quote name ++ ':' :: chars value ++ ',' :: fieldChars rest

end

def render (json : Json) : String := String.ofList json.chars

end Json

end Roster
