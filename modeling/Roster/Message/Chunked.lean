import Roster.Message.Header
import Roster.Text.Percent

namespace Roster.Message

/-! Bodies in chunks. Each chunk comes behind its size in hexadecimal digits; a chunk of no bytes is
the last, and headers may follow it. Lines end with a carriage return and a line feed. -/

namespace Chunked

/-- The number before a line end. Behind blanks and a semicolon it may have a remark. -/
def size? (bytes : List UInt8) : Option (Nat × List UInt8) :=
  let (digits, rest) := bytes.span fun b => (Text.Percent.hexDigit? b).isSome
  let rest :=
    match rest.dropWhile Header.isBlank with
    | 0x3B :: remark => remark.dropWhile fun b => b != carriageReturn && b != lineFeed
    | rest => rest
  match rest with
  | 0x0D :: 0x0A :: rest =>
    if digits.isEmpty then none
    else some (digits.foldl (fun n b => n * 16 + (Text.Percent.hexDigit? b).getD 0) 0, rest)
  | _ => none

/-- The lines up to an empty one, as they are written. -/
def trailer? (isInLine : Bool) : List UInt8 → Option (List UInt8)
  | 0x0D :: 0x0A :: rest =>
    (if isInLine then trailer? false rest else some []).map ([0x0D, 0x0A] ++ ·)
  | 0x0D :: _ => none
  | b :: rest => (trailer? true rest).map (b :: ·)
  | [] => none

/-- Whether the body ends in order behind its last chunk, with fewer headers than the limit. -/
def isEnd (limit : Nat) (bytes : List UInt8) : Bool :=
  ((trailer? false bytes).bind (Header.ofLines? (limit - 1))).isSome

def decodeWithin (limit : Nat) : Nat → List UInt8 → Option (List UInt8)
  | 0, _ => none
  | chunks + 1, bytes => do
    let (size, rest) ← size? bytes
    if size = 0 then (if isEnd limit rest then some [] else none)
    else if rest.length < size then none
    else
      match rest.drop size with
      | 0x0D :: 0x0A :: behind => return rest.take size ++ (← decodeWithin limit chunks behind)
      | _ => none

/-- The body that some bytes begin with; fewer headers than the limit may follow it. -/
def decode? (limit : Nat) (bytes : List UInt8) : Option (List UInt8) :=
  decodeWithin limit bytes.length bytes

end Chunked

end Roster.Message
