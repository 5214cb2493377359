namespace Roster.Text

/-! Bytes written as a percent sign and two hexadecimal digits. -/

namespace Percent

def digitOf (n : Nat) : Char := if n < 10 then Char.ofNat (48 + n) else Char.ofNat (55 + n)

def encodeByte (b : UInt8) : List Char :=
  ['%', digitOf (b.toNat / 16), digitOf (b.toNat % 16)]

/-- Whether a character is always encoded: it is a control character, or not in ASCII. -/
def isAlways (c : Char) : Bool := c.toNat < 0x20 || 0x7E < c.toNat

/-- Encodes the characters of a set, and those that are always encoded. -/
def encode (set : List Char) (text : List Char) : List Char :=
  text.flatMap fun c =>
    if isAlways c || set.contains c then
      (String.singleton c).toUTF8.toList.flatMap encodeByte
    else [c]

def hexDigit? (b : UInt8) : Option Nat :=
  let c := Char.ofNat b.toNat
  if c.isDigit then some (b.toNat - '0'.toNat)
  else if 'a' ≤ c ∧ c ≤ 'f' then some (b.toNat - 'a'.toNat + 10)
  else if 'A' ≤ c ∧ c ≤ 'F' then some (b.toNat - 'A'.toNat + 10)
  else none

/-- A percent sign that no two digits follow stands for itself. -/
def decode : List UInt8 → List UInt8
  | 0x25 :: high :: low :: rest =>
    match hexDigit? high, hexDigit? low with
    | some h, some l => UInt8.ofNat (h * 16 + l) :: decode rest
    | _, _ => 0x25 :: decode (high :: low :: rest)
  | b :: rest => b :: decode rest
  | [] => []

end Percent

end Roster.Text
