import Roster.Message.Header
import Roster.Text.Blank

namespace Roster.Message

/-! The beginning of a response: a line with its status, and headers up to an empty line. -/

structure Head where
  /-- The version behind the dot; the one before it is 1. -/
  version : Nat
  status : Nat
  headers : List Header
  deriving Inhabited

/-- How a body is delimited. -/
inductive Framing where
  | absent
  | chunked
  | sized (length : Nat)
  | untilClosed
  deriving DecidableEq

namespace Head

def maxHeaders : Nat := 100

def digit? (b : UInt8) : Option Nat :=
  if 0x30 ≤ b ∧ b ≤ 0x39 then some (b.toNat - 0x30) else none

/-- The version and the status on a line. A phrase may follow. -/
def statusLine? (line : List UInt8) : Option (Nat × Nat) :=
  let name := "HTTP/1.".toUTF8.toList
  match line.drop name.length with
  | v :: 0x20 :: a :: b :: c :: rest => do
    let version ← (digit? v).filter (· ≤ 1)
    let status := (← digit? a) * 100 + (← digit? b) * 10 + (← digit? c)
    let isPhrase := rest.isEmpty || (rest.head? == some 0x20 && Header.isValid rest)
    if name.isPrefixOf line && isPhrase && 100 ≤ status then some (version, status) else none
  | _ => none

def skipLineEnds : List UInt8 → List UInt8
  | 0x0D :: 0x0A :: rest => skipLineEnds rest
  | 0x0A :: rest => skipLineEnds rest
  | bytes => bytes

/-- The head that some bytes begin with, and the bytes behind it. -/
def ofBytes? (bytes : List UInt8) : Option (Head × List UInt8) := do
  let (line, rest) ← line? (skipLineEnds bytes)
  let (version, status) ← statusLine? line
  let (headers, rest) ← Header.ofLines? maxHeaders rest
  return ({ version, status, headers }, rest)

/-- Whether another head follows, because this one just announces it. -/
def isInterim (head : Head) : Bool := head.status < 200 && head.status != 101

/-- The head of the answer itself. So many may announce it. -/
def final? : Nat → List UInt8 → Option (Head × List UInt8)
  | 0, _ => none
  | heads + 1, bytes => do
    let (head, rest) ← ofBytes? bytes
    if head.isInterim then final? heads rest else some (head, rest)

/-! How long the body is. -/

/-- The pieces of a value with commas between them. -/
def pieces? (value : List UInt8) : Option (List (List Char)) :=
  (Header.text? value).map fun text => (text.splitOn ',').map Text.trimChars

/-- Whether the last of the codings of a body is that of chunks. -/
def isChunked (codings : List (List UInt8)) : Bool :=
  match codings.getLast?.bind pieces? with
  | some pieces => (pieces.getLastD []).map Char.toLower == "chunked".toList
  | none => false

def length? (digits : List Char) : Option Nat :=
  if digits.isEmpty || !digits.all Char.isDigit then none
  else some (digits.foldl (fun n c => n * 10 + (c.toNat - 48)) 0)

/-- The longest body whose length can be announced. -/
def maxLength : Nat := UInt64.size - 3

/-- The length on which all headers agree. -/
def agreed? (values : List (List UInt8)) : Option Nat := do
  let lengths ← (← values.mapM pieces?).flatten.mapM length?
  let length ← lengths.head?
  if lengths.all (· == length) && length ≤ maxLength then some length else none

/-- What delimits the body of a response; nothing if the headers contradict each other. -/
def framing? (head : Head) : Option Framing :=
  if head.status = 101 ∨ head.status = 204 ∨ head.status = 304 then some .absent
  else
    match Header.values head.headers "transfer-encoding" with
    | [] =>
      match Header.values head.headers "content-length" with
      | [] => some .untilClosed
      | lengths => (agreed? lengths).map .sized
    | codings =>
      if head.version = 0 then none
      else some (if isChunked codings then .chunked else .untilClosed)

end Head

end Roster.Message
