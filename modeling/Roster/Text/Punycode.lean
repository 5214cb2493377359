namespace Roster.Text

/-! Text in the letters, digits and hyphens of ASCII. The characters of ASCII come first, then a hyphen,
then numbers that tell where the others are inserted. A number is written with the least digit first,
in base 36; a digit below a threshold is the last, and the thresholds follow the numbers before. -/

namespace Punycode

def base : Nat := 36

def leastThreshold : Nat := 1

def greatestThreshold : Nat := 26

def firstBias : Nat := 72

/-- The first character that is not in ASCII. -/
def firstInserted : Nat := 0x80

def isAscii (c : Char) : Bool := c.toNat < firstInserted

def digitOf (n : Nat) : Char := if n < 26 then Char.ofNat (97 + n) else Char.ofNat (22 + n)

def digit? (c : Char) : Option Nat :=
  if c.isLower then some (c.toNat - 97)
  else if c.isUpper then some (c.toNat - 65)
  else if c.isDigit then some (c.toNat - 22)
  else none

/-- The threshold at a digit, which is counted in steps of the base. -/
def threshold (bias position : Nat) : Nat :=
  max leastThreshold (min greatestThreshold (position - bias))

/-- Scales a number down to what a few digits hold, and counts the digits. -/
def scale (n position : Nat) : Nat × Nat :=
  if 455 < n then scale (n / 35) (position + base) else (n, position)
termination_by n
decreasing_by omega

/-- The bias after a number, with so many characters in the text. -/
def adapt (number count : Nat) (isFirst : Bool) : Nat :=
  let number := if isFirst then number / 700 else number / 2
  let (number, position) := scale (number + number / count) 0
  position + base * number / (number + 38)

/-! Reading. Numbers stay below `UInt32.size`. -/

/-- Adds a number to a sum; its next digit counts `weight`. -/
def number? (bias position weight sum : Nat) : List Char → Option (Nat × List Char)
  | [] => none
  | c :: rest => do
    let digit ← digit? c
    let sum := sum + digit * weight
    let threshold := threshold bias position
    if UInt32.size ≤ sum then none
    else if digit < threshold then some (sum, rest)
    else if UInt32.size ≤ weight * (base - threshold) then none
    else number? bias (position + base) (weight * (base - threshold)) sum rest

theorem length_of_number? {bias position weight sum n : Nat} {text rest : List Char}
    (h : number? bias position weight sum text = some (n, rest)) : rest.length < text.length := by
  induction text generalizing position weight sum with
  | nil => simp [number?] at h
  | cons c text ih =>
    simp only [number?, Option.bind_eq_bind, Option.bind_eq_some_iff] at h
    obtain ⟨digit, -, h⟩ := h
    split at h
    · exact absurd h (by simp)
    · split at h
      · simp only [Option.some.injEq, Prod.mk.injEq] at h
        simp [h.2]
      · split at h
        · exact absurd h (by simp)
        · exact Nat.lt_succ_of_lt (ih h)

/-- Inserts the characters that numbers stand for. A number counts the places passed, at the end of
the text on to the next character. -/
def insertFrom (done : List Char) (char place bias : Nat) (text : List Char) :
    Option (List Char) :=
  match text with
  | [] => some done
  | c :: rest =>
    match h : number? bias base 1 place (c :: rest) with
    | none => none
    | some (sum, rest') =>
      let count := done.length + 1
      let bias := adapt (sum - place) count (done.all isAscii)
      let char := char + sum / count
      let place := sum % count
      if Nat.isValidChar char then
        insertFrom (done.take place ++ Char.ofNat char :: done.drop place) char (place + 1) bias
          rest'
      else none
termination_by text.length
decreasing_by exact length_of_number? h

/-- The text that a written form stands for. -/
def decode? (written : List Char) : Option (List Char) :=
  let (behind, before) := written.reverse.span (· != '-')
  match before with
  | [] => insertFrom [] firstInserted 0 firstBias written
  | [_] => none
  | _ :: before =>
    if before.all isAscii then
      insertFrom before.reverse firstInserted 0 firstBias behind.reverse
    else none

/-! Writing. -/

theorem threshold_pos (bias position : Nat) : 0 < threshold bias position :=
  Nat.lt_of_lt_of_le (by decide) (Nat.le_max_left leastThreshold _)

def writeNumber (bias position number : Nat) : List Char :=
  let t := threshold bias position
  if number < t then [digitOf number]
  else
    digitOf (t + (number - t) % (base - t)) ::
      writeNumber bias (position + base) ((number - t) / (base - t))
termination_by number
decreasing_by
  have h := threshold_pos bias position
  exact Nat.lt_of_le_of_lt (Nat.div_le_self _ _) (by omega)

/-- What has been written, the places passed since the last number, and how many characters the text
has by then. -/
structure Writing where
  written : List Char := []
  passed : Nat := 0
  bias : Nat := firstBias
  count : Nat
  isFirst : Bool := true

/-- Passes a character while those equal to `char` are inserted. -/
def Writing.step (char : Nat) (state : Writing) (c : Char) : Writing :=
  if c.toNat < char then { state with passed := state.passed + 1 }
  else if c.toNat = char then
    { written := state.written ++ writeNumber state.bias base state.passed
      passed := 0
      bias := adapt state.passed (state.count + 1) state.isFirst
      count := state.count + 1
      isFirst := false }
  else state

/-- Inserts the characters of a list, in ascending order; all below `next` are in the text. -/
def Writing.insertAll (text : List Char) (next : Nat) (state : Writing) : List Nat → Writing
  | [] => state
  | char :: rest =>
    let state := { state with passed := state.passed + (char - next) * (state.count + 1) }
    let state := text.foldl (step char) state
    insertAll text (char + 1) { state with passed := state.passed + 1 } rest

def encode (text : List Char) : List Char :=
  let plain := text.filter isAscii
  let others := ((text.filter fun c => !isAscii c).map Char.toNat).eraseDups
  let state : Writing := { count := plain.length }
  plain ++ (if plain.isEmpty then [] else ['-']) ++
    (state.insertAll text firstInserted (others.mergeSort fun a b => a ≤ b)).written

end Punycode

end Roster.Text
