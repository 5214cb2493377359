namespace Roster.Message

/-! Header lines: a name, a colon, and a value with blanks around it. Bytes that are not in ASCII may
stand in values only. -/

structure Header where
  /-- The name, in small letters. -/
  name : String
  value : List UInt8
  deriving DecidableEq, Inhabited

def carriageReturn : UInt8 := 0x0D

def lineFeed : UInt8 := 0x0A

/-- Splits off a line. A carriage return at its end does not belong to it. -/
def line? (bytes : List UInt8) : Option (List UInt8 × List UInt8) :=
  match bytes.span (· != lineFeed) with
  | (line, _ :: rest) =>
    some (if line.getLast? = some carriageReturn then line.dropLast else line, rest)
  | (_, []) => none

namespace Header

/-- Whether a value may contain a byte: all but control characters, of which a tab is allowed. -/
def allows (b : UInt8) : Bool := b == 0x09 || (0x20 ≤ b && b != 0x7F)

def isValid (value : List UInt8) : Bool := value.all allows

/-- A value that consists of visible characters, blanks and tabs. -/
def text? (value : List UInt8) : Option (List Char) :=
  if value.all fun b => b == 0x09 || (0x20 ≤ b && b < 0x7F) then
    some (value.map fun b => Char.ofNat b.toNat)
  else none

def isNameByte (b : UInt8) : Bool :=
  let c := Char.ofNat b.toNat
  b < 0x80 && (c.isAlphanum || "!#$%&'*+-.^_`|~".toList.contains c)

def isBlank (b : UInt8) : Bool := b == 0x20 || b == 0x09

def trim (bytes : List UInt8) : List UInt8 :=
  ((bytes.dropWhile isBlank).reverse.dropWhile isBlank).reverse

/-- The header on a line. No blank may stand before the colon. -/
def ofLine? (line : List UInt8) : Option Header :=
  let (name, rest) := line.span isNameByte
  match rest with
  | 0x3A :: rest =>
    let value := trim rest
    if name.isEmpty || !isValid value then none
    else some ⟨String.ofList (name.map fun b => (Char.ofNat b.toNat).toLower), value⟩
  | _ => none

/-- The headers up to an empty line, so many at most, and what follows the line. -/
def ofLines? (limit : Nat) (bytes : List UInt8) : Option (List Header × List UInt8) := do
  let (line, rest) ← line? bytes
  if line.isEmpty then some ([], rest)
  else
    match limit with
    | 0 => none
    | limit + 1 =>
      let header ← ofLine? line
      let (headers, rest) ← ofLines? limit rest
      return (header :: headers, rest)

def values (headers : List Header) (name : String) : List (List UInt8) :=
  (headers.filter (·.name == name)).map (·.value)

end Header

end Roster.Message
