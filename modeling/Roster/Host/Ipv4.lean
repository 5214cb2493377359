namespace Roster.Host

/-! Addresses of 32 bits. Up to four numbers stand for one, with dots between them: the last is as
large as the others leave room for. A number is decimal, octal behind a zero, or hexadecimal behind
`0x`. -/

namespace Ipv4

def digit? (base : Nat) (c : Char) : Option Nat :=
  let value :=
    if c.isDigit then some (c.toNat - '0'.toNat)
    else if 'a' ≤ c ∧ c ≤ 'f' then some (c.toNat - 'a'.toNat + 10)
    else if 'A' ≤ c ∧ c ≤ 'F' then some (c.toNat - 'A'.toNat + 10)
    else none
  value.filter (· < base)

def natOf? (base : Nat) (digits : List Char) : Option Nat :=
  digits.foldlM (fun n c => (digit? base c).map (n * base + ·)) 0

/-- A number in one of the bases. Nothing behind the sign of a base is zero. -/
def number? : List Char → Option Nat
  | [] => none
  | '0' :: 'x' :: digits => natOf? 16 digits
  | '0' :: 'X' :: digits => natOf? 16 digits
  | '0' :: digits => natOf? 8 digits
  | digits => natOf? 10 digits

/-- The parts of a host; a dot at its end counts for nothing. -/
def parts (host : List Char) : List (List Char) :=
  let parts := host.splitOn '.'
  if 1 < parts.length ∧ parts.getLast? = some [] then parts.dropLast else parts

/-- Whether the last part of a host is a number, or looks like one; then the host has to be an
address. -/
def isMeant (host : List Char) : Bool :=
  match (parts host).getLast? with
  | some last => (!last.isEmpty && last.all Char.isDigit) || (number? last).isSome
  | none => false

def ofChars? (host : List Char) : Option UInt32 := do
  let parts := parts host
  if 4 < parts.length then none
  let numbers ← parts.mapM number?
  let last ← numbers.getLast?
  let others := numbers.dropLast
  if others.any (255 < ·) || UInt32.size >>> (8 * others.length) ≤ last then none
  else
    let high := others.foldl (fun sum n => sum * 256 + n) 0
    return UInt32.ofNat ((high <<< (8 * (4 - others.length))) + last)

def octets (address : UInt32) : List Nat :=
  [24, 16, 8, 0].map fun places => (address.toNat >>> places) % 256

def render (address : UInt32) : String :=
  ".".intercalate ((octets address).map toString)

end Ipv4

end Roster.Host
