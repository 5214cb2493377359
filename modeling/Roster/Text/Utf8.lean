namespace Roster.Text

/-! Reading UTF-8 that may be broken. Every broken sequence, up to the byte that breaks it, is read
as one replacement character. -/

namespace Utf8

def replacement : Char := '\uFFFD'

/-- A sequence that has begun: how many bytes are to come, the bits so far, and the range in which
the next byte has to lie. -/
structure Partial where
  missing : Nat
  bits : Nat
  low : UInt8
  high : UInt8
  deriving DecidableEq

/-- What a byte that begins a sequence leads to. -/
inductive Lead where
  | char (c : Char)
  | begun (sequence : Partial)
  | broken

/-- The second byte of a sequence has a smaller range where the whole would otherwise be overlong,
a surrogate, or too large. -/
def lead (b : UInt8) : Lead :=
  let n := b.toNat
  if n < 0x80 then .char (Char.ofNat n)
  else if n < 0xC2 then .broken
  else if n < 0xE0 then .begun ⟨1, n - 0xC0, 0x80, 0xBF⟩
  else if n = 0xE0 then .begun ⟨2, 0, 0xA0, 0xBF⟩
  else if n = 0xED then .begun ⟨2, 0xD, 0x80, 0x9F⟩
  else if n < 0xF0 then .begun ⟨2, n - 0xE0, 0x80, 0xBF⟩
  else if n = 0xF0 then .begun ⟨3, 0, 0x90, 0xBF⟩
  else if n < 0xF4 then .begun ⟨3, n - 0xF0, 0x80, 0xBF⟩
  else if n = 0xF4 then .begun ⟨3, 4, 0x80, 0x8F⟩
  else .broken

/-- The characters of bytes that may continue a sequence. -/
def decodeFrom (sequence : Option Partial) : List UInt8 → List Char
  | [] => if sequence.isSome then [replacement] else []
  | b :: rest =>
    let fresh :=
      match lead b with
      | .char c => c :: decodeFrom none rest
      | .begun begun => decodeFrom (some begun) rest
      | .broken => replacement :: decodeFrom none rest
    match sequence with
    | none => fresh
    | some begun =>
      if begun.low ≤ b ∧ b ≤ begun.high then
        let bits := begun.bits * 64 + b.toNat % 64
        if begun.missing ≤ 1 then Char.ofNat bits :: decodeFrom none rest
        else decodeFrom (some ⟨begun.missing - 1, bits, 0x80, 0xBF⟩) rest
      else replacement :: fresh

end Utf8

def decodeUtf8 (bytes : List UInt8) : String := String.ofList (Utf8.decodeFrom none bytes)

end Roster.Text
