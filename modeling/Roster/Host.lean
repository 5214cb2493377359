import Roster.Host.Ipv6
import Roster.Host.Name
import Roster.Text.Percent

namespace Roster

/-! The hosts that addresses name. -/

inductive Host where
  /-- No host, where there is a place for one. -/
  | empty
  /-- A domain name, or what another kind of address has in its place. -/
  | name (name : String)
  | ipv4 (address : UInt32)
  | ipv6 (address : Host.Ipv6)
  deriving DecidableEq

namespace Host

def render : Host → String
  | empty => ""
  | name text => text
  | ipv4 address => Ipv4.render address
  | ipv6 address => "[" ++ Ipv6.render address ++ "]"

/-- An address of 128 bits, of which the opening bracket has been read. -/
def bracketed? (text : List Char) : Option Host :=
  if text.getLast? = some ']' then (Ipv6.ofChars? text.dropLast).map ipv6 else none

def ofChars? (text : List Char) : Option Host :=
  match text with
  | '[' :: rest => bracketed? rest
  | _ => do
    let bytes := Text.Percent.decode (String.ofList text).toUTF8.toList
    let name ← Name.toAscii? (← String.fromUTF8? ⟨bytes.toArray⟩).toList
    if name.isEmpty then none
    else if Ipv4.isMeant name then (Ipv4.ofChars? name).map ipv4
    else some (.name (String.ofList name))

/-- Characters that stand in no host, whatever it means. -/
def isForbidden (c : Char) : Bool :=
  "\t\n\r #/:<>?@[\\]^|".toList.contains c || c.toNat = 0

/-- A host whose meaning is open: other characters are encoded, and it may be empty. -/
def uninterpreted? (text : List Char) : Option Host :=
  match text with
  | [] => some .empty
  | '[' :: rest => bracketed? rest
  | _ =>
    if text.any isForbidden then none
    else some (.name (String.ofList (Text.Percent.encode [] text)))

end Host

end Roster
