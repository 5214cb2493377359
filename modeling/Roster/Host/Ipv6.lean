import Roster.Host.Ipv4

namespace Roster.Host

/-! Addresses of 128 bits: eight groups of hexadecimal digits with colons between them. Two colons
together stand for groups of zeros, and the last two groups may be written as four decimal numbers. -/

structure Ipv6 where
  groups : List UInt16
  length_groups : groups.length = 8
  deriving DecidableEq

namespace Ipv6

/-- One to four hexadecimal digits. -/
def group? (digits : List Char) : Option UInt16 :=
  if digits.isEmpty || 4 < digits.length then none
  else (Ipv4.natOf? 16 digits).map UInt16.ofNat

/-- A decimal number below 256 without zeros before it. -/
def octet? (digits : List Char) : Option Nat :=
  if digits.isEmpty || (1 < digits.length && digits.head? == some '0') then none
  else (Ipv4.natOf? 10 digits).filter (· < 256)

/-- The last groups of an address: one, or the two that four decimal numbers stand for. -/
def tail? (text : List Char) : Option (List UInt16) :=
  match (text.splitOn '.').mapM octet? with
  | some [a, b, c, d] => some [UInt16.ofNat (a * 256 + b), UInt16.ofNat (c * 256 + d)]
  | _ => (group? text).map ([·])

/-- Groups with a colon between each two. Only the last may be written in decimal, if so allowed. -/
def groups? (decimal : Bool) (text : List Char) : Option (List UInt16) :=
  if text.isEmpty then some []
  else do
    let pieces := text.splitOn ':'
    let first ← pieces.dropLast.mapM group?
    let last ← if decimal then tail? (pieces.getLastD []) else (group? (pieces.getLastD [])).map ([·])
    return first ++ last

/-- Splits a text at the first two colons that stand together. -/
def splitAtGap? : List Char → Option (List Char × List Char)
  | ':' :: ':' :: rest => some ([], rest)
  | c :: rest => (splitAtGap? rest).map fun (before, behind) => (c :: before, behind)
  | [] => none

def ofGroups? (groups : List UInt16) : Option Ipv6 :=
  if h : groups.length = 8 then some ⟨groups, h⟩ else none

def ofChars? (text : List Char) : Option Ipv6 := do
  match splitAtGap? text with
  | none => ofGroups? (← groups? true text)
  | some (before, behind) =>
    let before ← groups? false before
    let behind ← groups? true behind
    let missing := 8 - (before.length + behind.length)
    if missing = 0 then none else ofGroups? (before ++ List.replicate missing 0 ++ behind)

/-! The written form has small letters, no zeros before a number, and two colons in place of the
longest run of zeros, which has two groups at least; of equals, the first. -/

def zeros (groups : List UInt16) : Nat := (groups.takeWhile (· == 0)).length

/-- Where the longest run of zeros begins, and how long it is. -/
def longestZeros (groups : List UInt16) : Nat × Nat :=
  (List.range groups.length).foldl (fun best start =>
    let length := zeros (groups.drop start)
    if best.2 < length then (start, length) else best) (0, 0)

def hex (group : UInt16) : String := String.ofList (Nat.toDigits 16 group.toNat)

def written (groups : List UInt16) : String := ":".intercalate (groups.map hex)

def render (address : Ipv6) : String :=
  let (start, length) := longestZeros address.groups
  if length < 2 then written address.groups
  else
    written (address.groups.take start) ++ "::" ++ written (address.groups.drop (start + length))

end Ipv6

end Roster.Host
