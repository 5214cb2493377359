namespace Roster.Json

/-! The tokens of JSON text, read from bytes. Strings keep their bytes and their escaped code units
apart, and numbers keep their digits: whether a string is well-formed text and a number in range is
asked only of those that are used. -/

/-- What stands between the quotes of a string: a byte, or a code unit that is written as four
hexadecimal digits. -/
inductive Piece where
  | byte (value : UInt8)
  | code (unit : Nat)
  deriving DecidableEq

structure Numeral where
  negative : Bool
  whole : List Nat
  fraction : List Nat
  exponent : Option (Bool × List Nat)
  deriving DecidableEq

inductive Token where
  | openBrace
  | closeBrace
  | openBracket
  | closeBracket
  | colon
  | comma
  | null
  | true
  | false
  | number (numeral : Numeral)
  | string (pieces : List Piece)
  deriving DecidableEq

namespace Token

def isBlank (b : UInt8) : Bool := b == 0x20 || b == 0x09 || b == 0x0A || b == 0x0D

def hexValue (b : UInt8) : Option Nat :=
  if 0x30 ≤ b ∧ b ≤ 0x39 then some (b.toNat - 0x30)
  else if 0x41 ≤ b ∧ b ≤ 0x46 then some (b.toNat - 0x37)
  else if 0x61 ≤ b ∧ b ≤ 0x66 then some (b.toNat - 0x57)
  else none

def codeUnit (a b c d : UInt8) : Option Nat := do
  return (((← hexValue a) * 16 + (← hexValue b)) * 16 + (← hexValue c)) * 16 + (← hexValue d)

/-- The byte that a backslash and one more byte stand for. -/
def escaped (b : UInt8) : Option UInt8 :=
  if b = 0x22 ∨ b = 0x5C ∨ b = 0x2F then some b
  else if b = 0x62 then some 0x08
  else if b = 0x66 then some 0x0C
  else if b = 0x6E then some 0x0A
  else if b = 0x72 then some 0x0D
  else if b = 0x74 then some 0x09
  else none

/-- The rest of a string and what follows it. -/
def pieces : List UInt8 → Option (List Piece × List UInt8)
  | [] => none
  | 0x22 :: rest => some ([], rest)
  | 0x5C :: 0x75 :: a :: b :: c :: d :: rest => do
    let unit ← codeUnit a b c d
    let (more, after) ← pieces rest
    return (.code unit :: more, after)
  | 0x5C :: e :: rest => do
    let byte ← escaped e
    let (more, after) ← pieces rest
    return (.byte byte :: more, after)
  | b :: rest =>
    if b < 0x20 then none
    else do
      let (more, after) ← pieces rest
      return (.byte b :: more, after)

def digit? (b : UInt8) : Option Nat :=
  if 0x30 ≤ b ∧ b ≤ 0x39 then some (b.toNat - 0x30) else none

def digits : List UInt8 → List Nat × List UInt8
  | [] => ([], [])
  | b :: rest =>
    match digit? b with
    | some d => (d :: (digits rest).1, (digits rest).2)
    | none => ([], b :: rest)

def someDigits (bytes : List UInt8) : Option (List Nat × List UInt8) :=
  match digits bytes with
  | ([], _) => none
  | found => some found

/-- The digits before the point; a zero among them stands alone. -/
def whole (bytes : List UInt8) : Option (List Nat × List UInt8) :=
  match digits bytes with
  | ([], _) => none
  | (0 :: _ :: _, _) => none
  | found => some found

def fraction (bytes : List UInt8) : Option (List Nat × List UInt8) :=
  match bytes with
  | 0x2E :: rest => someDigits rest
  | _ => some ([], bytes)

def exponentDigits (negative : Bool) (bytes : List UInt8) :
    Option (Option (Bool × List Nat) × List UInt8) :=
  (someDigits bytes).map fun (ds, rest) => (some (negative, ds), rest)

def exponent (bytes : List UInt8) : Option (Option (Bool × List Nat) × List UInt8) :=
  match bytes with
  | [] => some (none, [])
  | b :: rest =>
    if b = 0x65 ∨ b = 0x45 then
      match rest with
      | 0x2B :: rest => exponentDigits Bool.false rest
      | 0x2D :: rest => exponentDigits Bool.true rest
      | rest => exponentDigits Bool.false rest
    else some (none, bytes)

def magnitude (negative : Bool) (bytes : List UInt8) : Option (Token × List UInt8) := do
  let (whole, rest) ← whole bytes
  let (fraction, rest) ← fraction rest
  let (exponent, rest) ← exponent rest
  return (.number ⟨negative, whole, fraction, exponent⟩, rest)

/-- The token that a text starts with, and the text after it. -/
def next : List UInt8 → Option (Token × List UInt8)
  | 0x7B :: rest => some (openBrace, rest)
  | 0x7D :: rest => some (closeBrace, rest)
  | 0x5B :: rest => some (openBracket, rest)
  | 0x5D :: rest => some (closeBracket, rest)
  | 0x3A :: rest => some (colon, rest)
  | 0x2C :: rest => some (comma, rest)
  | 0x6E :: 0x75 :: 0x6C :: 0x6C :: rest => some (null, rest)
  | 0x74 :: 0x72 :: 0x75 :: 0x65 :: rest => some (true, rest)
  | 0x66 :: 0x61 :: 0x6C :: 0x73 :: 0x65 :: rest => some (false, rest)
  | 0x22 :: rest => (pieces rest).map fun (ps, rest) => (string ps, rest)
  | 0x2D :: rest => magnitude Bool.true rest
  | bytes => magnitude Bool.false bytes

/-! Every token takes at least one byte. -/

theorem length_of_pieces {bytes after : List UInt8} {ps : List Piece}
    (h : pieces bytes = some (ps, after)) : after.length < bytes.length := by
  fun_induction pieces bytes generalizing ps after with
  | case1 => simp at h
  | case2 => simp at h; simp [h.2]
  | case3 a b c d rest ih =>
    simp only [Option.bind_eq_bind, Option.bind_eq_some_iff] at h
    obtain ⟨_, _, ⟨_, _⟩, hmore, h⟩ := h
    have := ih hmore
    simp at h
    simp [← h.2]
    omega
  | case4 e rest _ ih =>
    simp only [Option.bind_eq_bind, Option.bind_eq_some_iff] at h
    obtain ⟨_, _, ⟨_, _⟩, hmore, h⟩ := h
    have := ih hmore
    simp at h
    simp [← h.2]
    omega
  | case5 => simp at h
  | case6 b rest _ _ _ _ ih =>
    simp only [Option.bind_eq_bind, Option.bind_eq_some_iff] at h
    obtain ⟨⟨_, _⟩, hmore, h⟩ := h
    have := ih hmore
    simp at h
    simp [← h.2]
    omega

theorem length_of_digits {bytes after : List UInt8} {ds : List Nat}
    (h : digits bytes = (ds, after)) : after.length + ds.length = bytes.length := by
  induction bytes generalizing ds after with
  | nil => simp [digits] at h; simp [← h.1, ← h.2]
  | cons b rest ih =>
    simp only [digits] at h
    split at h
    · simp at h
      have := @ih (digits rest).2 (digits rest).1 rfl
      simp [← h.1, ← h.2]
      omega
    · simp at h
      simp [← h.1, ← h.2]

theorem length_of_someDigits {bytes after : List UInt8} {ds : List Nat}
    (h : someDigits bytes = some (ds, after)) : after.length < bytes.length := by
  unfold someDigits at h
  split at h
  · simp at h
  · rename_i hne
    simp only [Option.some.injEq] at h
    have := length_of_digits h
    cases ds with
    | nil => exact absurd h (by simpa using fun h => hne _ h)
    | cons => simp at this; omega

theorem length_of_whole {bytes after : List UInt8} {ds : List Nat}
    (h : whole bytes = some (ds, after)) : after.length < bytes.length := by
  unfold whole at h
  split at h
  · simp at h
  · simp at h
  · rename_i hne _
    simp only [Option.some.injEq] at h
    have := length_of_digits h
    cases ds with
    | nil => exact absurd h (by simpa using fun h => hne _ h)
    | cons => simp at this; omega

theorem length_of_fraction {bytes after : List UInt8} {ds : List Nat}
    (h : fraction bytes = some (ds, after)) : after.length ≤ bytes.length := by
  unfold fraction at h
  split at h
  · have := length_of_someDigits h
    simp
    omega
  · simp at h
    simp [h.2]

theorem length_of_exponentDigits {negative : Bool} {bytes after : List UInt8}
    {e : Option (Bool × List Nat)} (h : exponentDigits negative bytes = some (e, after)) :
    after.length < bytes.length := by
  simp only [exponentDigits, Option.map_eq_some_iff] at h
  obtain ⟨⟨ds, rest⟩, hds, h⟩ := h
  simp at h
  exact h.2 ▸ length_of_someDigits hds

theorem length_of_exponent {bytes after : List UInt8} {e : Option (Bool × List Nat)}
    (h : exponent bytes = some (e, after)) : after.length ≤ bytes.length := by
  unfold exponent at h
  split at h
  · simp at h
    simp [h.2]
  · split at h
    · split at h <;> have := length_of_exponentDigits h <;> simp_all <;> omega
    · simp at h
      simp [← h.2]

theorem length_of_magnitude {negative : Bool} {bytes after : List UInt8} {token : Token}
    (h : magnitude negative bytes = some (token, after)) : after.length < bytes.length := by
  simp only [magnitude, Option.bind_eq_bind, Option.bind_eq_some_iff] at h
  obtain ⟨⟨_, _⟩, hwhole, ⟨_, _⟩, hfraction, ⟨_, _⟩, hexponent, h⟩ := h
  simp at h
  have := length_of_whole hwhole
  have := length_of_fraction hfraction
  have := length_of_exponent hexponent
  dsimp only at *
  rw [← h.2]
  omega

theorem length_of_next {bytes after : List UInt8} {token : Token}
    (h : next bytes = some (token, after)) : after.length < bytes.length := by
  unfold next at h
  split at h
  case h_10 =>
    obtain ⟨⟨_, _⟩, hps, h⟩ := Option.map_eq_some_iff.1 h
    simp at h
    have := length_of_pieces hps
    simp only [← h.2, List.length_cons]
    omega
  case h_11 =>
    have := length_of_magnitude h
    simp only [List.length_cons]
    omega
  case h_12 => exact length_of_magnitude h
  all_goals
    simp at h
    simp [← h.2]
    try omega

def scan (bytes : List UInt8) : Option (List Token) :=
  match _hbytes : bytes.dropWhile isBlank with
  | [] => some []
  | b :: rest =>
    match _h : next (b :: rest) with
    | none => none
    | some (token, after) => (scan after).map (token :: ·)
termination_by bytes.length
decreasing_by
  have hnext := length_of_next _h
  have hdrop : (bytes.dropWhile isBlank).length ≤ bytes.length :=
    (List.dropWhile_sublist isBlank).length_le
  rw [_hbytes] at hdrop
  omega

end Token

end Roster.Json
