import Roster.Message.Chunked
import Roster.Message.Head
import Roster.Time.Span

namespace Roster.Message

/-! Responses, as they are read from the bytes of a connection. -/

structure Response where
  status : Nat
  headers : List Header := []
  /-- The body, unless it has broken off. -/
  body : Option (List UInt8) := some []
  deriving Inhabited

namespace Response

def values (response : Response) (name : String) : List (List UInt8) :=
  Header.values response.headers name

def bodyOf : Framing → List UInt8 → Option (List UInt8)
  | .absent, _ => some []
  | .chunked, bytes => Chunked.decode? Head.maxHeaders bytes
  | .sized length, bytes => if bytes.length < length then none else some (bytes.take length)
  | .untilClosed, bytes => some bytes

/-- The response in all bytes of a connection, if there is one. -/
def ofBytes? (bytes : List UInt8) : Option Response := do
  let (head, rest) ← Head.final? bytes.length bytes
  let framing ← head.framing?
  return { status := head.status, headers := head.headers, body := bodyOf framing rest }

end Response

/-! What comes over a connection in time. -/

inductive Ending where
  | closed
  /-- It breaks down. -/
  | broken

/-- What has come over a connection: bytes, and its end if that has come as well. -/
structure Inflow where
  bytes : List UInt8
  ending? : Option Ending

namespace Inflow

/-- The body in the bytes behind a head, if it has come completely. One that lasts as long as the
connection has come when that is closed. -/
def body? : Framing → List UInt8 → Option Ending → Option (List UInt8)
  | .untilClosed, rest, some .closed => some rest
  | .untilClosed, _, _ => none
  | framing, rest, _ => Response.bodyOf framing rest

/-- The response, if its head has come completely. -/
def response? (inflow : Inflow) : Option Response := do
  let (head, rest) ← Head.final? inflow.bytes.length inflow.bytes
  let framing ← head.framing?
  return {
    status := head.status
    headers := head.headers
    body := body? framing rest inflow.ending? }

end Inflow

inductive Deed where
  | writes (bytes : List UInt8)
  | ends (ending : Ending)

namespace Inflow

/-- What comes within so many nanoseconds, where each deed follows a while after the one before. -/
def within (left : Nat) : List (Span × Deed) → Inflow
  | [] => ⟨[], none⟩
  | (pause, deed) :: deeds =>
    if pause.nanos ≤ left then
      match deed with
      | .writes bytes =>
        let later := within (left - pause.nanos) deeds
        { later with bytes := bytes ++ later.bytes }
      | .ends ending => ⟨[], some ending⟩
    else ⟨[], none⟩

end Inflow

end Roster.Message
