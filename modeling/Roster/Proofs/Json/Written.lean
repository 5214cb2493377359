import Mathlib.Tactic.IntervalCases
import Roster.Json.Decode

namespace Roster.Json

/-! Every tree that a text can have is the tree of a text without blanks. -/

namespace Piece

/-- What stands behind a backslash for a byte that is not written as it is. -/
def letter? (b : UInt8) : Option UInt8 :=
  if b = 0x22 then some 0x22
  else if b = 0x5C then some 0x5C
  else if b = 0x08 then some 0x62
  else if b = 0x0C then some 0x66
  else if b = 0x0A then some 0x6E
  else if b = 0x0D then some 0x72
  else if b = 0x09 then some 0x74
  else none

def hexDigit (n : Nat) : UInt8 := if n < 10 then UInt8.ofNat (0x30 + n) else UInt8.ofNat (0x57 + n)

def written : Piece → List UInt8
  | byte b =>
    match letter? b with
    | some letter => [0x5C, letter]
    | none => [b]
  | code unit =>
    [0x5C, 0x75, hexDigit (unit / 0x1000), hexDigit (unit / 0x100 % 0x10),
      hexDigit (unit / 0x10 % 0x10), hexDigit (unit % 0x10)]

/-- What can stand between quotes: control characters only if they have a letter. -/
def Legible : Piece → Prop
  | byte b => 0x20 ≤ b ∨ (letter? b).isSome
  | code unit => unit < 0x10000

def quoted (pieces : List Piece) : List UInt8 := 0x22 :: (pieces.flatMap written ++ [0x22])

theorem escaped_of_letter? {b letter : UInt8} (has_letter : letter? b = some letter) :
    letter ≠ 0x75 ∧ Token.escaped letter = some b := by
  unfold letter? at has_letter
  repeat' split at has_letter
  all_goals cases has_letter
  all_goals subst b; decide

theorem hexValue_hexDigit : ∀ n < 0x10, Token.hexValue (hexDigit n) = some n := by decide

theorem codeUnit_hexDigits {unit : Nat} (small : unit < 0x10000) :
    Token.codeUnit (hexDigit (unit / 0x1000)) (hexDigit (unit / 0x100 % 0x10))
      (hexDigit (unit / 0x10 % 0x10)) (hexDigit (unit % 0x10)) = some unit := by
  have digits : ((unit / 0x1000 * 16 + unit / 0x100 % 0x10) * 16 + unit / 0x10 % 0x10) * 16 +
      unit % 0x10 = unit := by omega
  rw [Token.codeUnit, hexValue_hexDigit _ (by omega), hexValue_hexDigit _ (by omega),
    hexValue_hexDigit _ (by omega), hexValue_hexDigit _ (by omega)]
  exact congrArg some digits

theorem pieces_written {piece : Piece} (legible : piece.Legible) (rest : List UInt8) :
    Token.pieces (piece.written ++ rest) =
      (Token.pieces rest).map fun (more, after) => (piece :: more, after) := by
  cases piece with
  | code unit =>
      rw [written, List.cons_append, List.cons_append, List.cons_append, List.cons_append,
        List.cons_append, List.cons_append, List.nil_append, Token.pieces, codeUnit_hexDigits legible]
      cases Token.pieces rest <;> rfl
  | byte b =>
      rw [written]
      cases letter : letter? b with
      | some e =>
          obtain ⟨notCode, escapes⟩ := escaped_of_letter? letter
          dsimp only [List.cons_append, List.nil_append]
          rw [Token.pieces, escapes]
          · cases Token.pieces rest <;> rfl
          · rintro _ _ _ _ _ code -
            exact notCode code
      | none =>
          have printable : ¬ b < 0x20 := by
            rcases legible with printable | escaped
            · exact UInt8.not_lt.mpr printable
            · rw [letter] at escaped
              cases escaped
          have plain : b ≠ 0x22 ∧ b ≠ 0x5C := by
            unfold letter? at letter
            grind
          dsimp only [List.cons_append, List.nil_append]
          rw [Token.pieces, if_neg printable]
          · cases Token.pieces rest <;> rfl
          · exact plain.1
          · rintro _ _ _ _ _ rfl
            exact absurd rfl plain.2
          · rintro _ _ rfl
            exact absurd rfl plain.2

theorem pieces_quoted {pieces : List Piece} (legible : ∀ piece ∈ pieces, piece.Legible)
    (rest : List UInt8) :
    Token.pieces (pieces.flatMap written ++ 0x22 :: rest) = some (pieces, rest) := by
  induction pieces with
  | nil => rw [List.flatMap_nil, List.nil_append, Token.pieces]
  | cons piece more ih =>
      rw [List.flatMap_cons, List.append_assoc,
        pieces_written (legible piece List.mem_cons_self),
        ih fun piece member => legible piece (List.mem_cons_of_mem _ member)]
      rfl

end Piece

namespace Token

/-- Whether a number that stands before this text ends where the text begins. -/
def Ends (rest : List UInt8) : Prop :=
  ∀ b ∈ rest.head?, digit? b = none ∧ b ≠ 0x2E ∧ b ≠ 0x65 ∧ b ≠ 0x45

theorem Ends.nil : Ends [] := nofun

theorem Ends.cons {b : UInt8} (ends : digit? b = none ∧ b ≠ 0x2E ∧ b ≠ 0x65 ∧ b ≠ 0x45)
    (rest : List UInt8) : Ends (b :: rest) := by
  rintro _ ⟨⟩
  exact ends

end Token

namespace Numeral

def digitByte (d : Nat) : UInt8 := UInt8.ofNat (0x30 + d)

def fractionWritten : List Nat → List UInt8
  | [] => []
  | d :: more => 0x2E :: (d :: more).map digitByte

def exponentWritten : Option (Bool × List Nat) → List UInt8
  | none => []
  | some (negative, digits) =>
    0x65 :: ((if negative then [0x2D] else []) ++ digits.map digitByte)

def written (numeral : Numeral) : List UInt8 :=
  (if numeral.negative then [0x2D] else []) ++ (numeral.whole.map digitByte ++
    (fractionWritten numeral.fraction ++ exponentWritten numeral.exponent))

structure Legible (numeral : Numeral) : Prop where
  whole_ne : numeral.whole ≠ []
  zero_alone : ∀ d more, numeral.whole ≠ 0 :: d :: more
  whole_digits : ∀ d ∈ numeral.whole, d < 10
  fraction_digits : ∀ d ∈ numeral.fraction, d < 10
  exponent_ne : ∀ negative digits, numeral.exponent = some (negative, digits) → digits ≠ []
  exponent_digits : ∀ negative digits, numeral.exponent = some (negative, digits) →
    ∀ d ∈ digits, d < 10

theorem digit?_digitByte : ∀ d < 10, Token.digit? (digitByte d) = some d := by decide

theorem digits_written {digits : List Nat} (small : ∀ d ∈ digits, d < 10) {rest : List UInt8}
    (ends : ∀ b ∈ rest.head?, Token.digit? b = none) :
    Token.digits (digits.map digitByte ++ rest) = (digits, rest) := by
  induction digits with
  | nil =>
      cases rest with
      | nil => rfl
      | cons b after =>
          rw [List.map_nil, List.nil_append, Token.digits, ends b rfl]
  | cons d more ih =>
      rw [List.map_cons, List.cons_append, Token.digits, digit?_digitByte d (small d (.head _)),
        ih fun d member => small d (.tail _ member)]

theorem someDigits_written {digits : List Nat} (some_digits : digits ≠ [])
    (small : ∀ d ∈ digits, d < 10) {rest : List UInt8}
    (ends : ∀ b ∈ rest.head?, Token.digit? b = none) :
    Token.someDigits (digits.map digitByte ++ rest) = some (digits, rest) := by
  rw [Token.someDigits, digits_written small ends]
  cases digits with
  | nil => exact absurd rfl some_digits
  | cons => rfl

theorem exponent_written {exponent : Option (Bool × List Nat)}
    (some_digits : ∀ negative digits, exponent = some (negative, digits) → digits ≠ [])
    (small : ∀ negative digits, exponent = some (negative, digits) → ∀ d ∈ digits, d < 10)
    {rest : List UInt8} (ends : Token.Ends rest) :
    Token.exponent (exponentWritten exponent ++ rest) = some (exponent, rest) := by
  rcases exponent with _ | ⟨negative, digits⟩
  · rw [exponentWritten, List.nil_append]
    cases rest with
    | nil => rfl
    | cons b after =>
        obtain ⟨-, -, lower, upper⟩ := ends b rfl
        exact if_neg (not_or.mpr ⟨lower, upper⟩)
  · have stops : ∀ b ∈ rest.head?, Token.digit? b = none := fun b member => (ends b member).1
    have found := someDigits_written (some_digits negative digits rfl) (small negative digits rfl) stops
    cases negative with
    | true =>
        change Token.exponentDigits true (digits.map digitByte ++ rest) = _
        rw [Token.exponentDigits, found]
        rfl
    | false =>
        cases digits with
        | nil => exact absurd rfl (some_digits false [] rfl)
        | cons d more =>
            have plain : digitByte d ≠ 0x2B ∧ digitByte d ≠ 0x2D := by
              have digit : d < 10 := small false (d :: more) rfl d (.head _)
              interval_cases d <;> decide
            change Token.exponent (0x65 :: digitByte d :: (more.map digitByte ++ rest)) = _
            rw [Token.exponent, if_pos (.inl rfl)]
            · change Token.exponentDigits false ((d :: more).map digitByte ++ rest) = _
              rw [Token.exponentDigits, found]
              rfl
            · exact fun _ same => plain.1 (List.cons.inj same).1
            · exact fun _ same => plain.2 (List.cons.inj same).1

/-- What follows the digits before the point is no digit. -/
theorem tail_ends {fraction : List Nat} {exponent : Option (Bool × List Nat)} {rest : List UInt8}
    (ends : Token.Ends rest) :
    ∀ b ∈ (fractionWritten fraction ++ (exponentWritten exponent ++ rest)).head?,
      Token.digit? b = none := by
  cases fraction with
  | cons => rintro _ ⟨⟩; rfl
  | nil =>
      cases exponent with
      | some => rintro _ ⟨⟩; rfl
      | none => exact fun b member => (ends b member).1

theorem fraction_written {fraction : List Nat} (small : ∀ d ∈ fraction, d < 10)
    {exponent : Option (Bool × List Nat)} {rest : List UInt8} (ends : Token.Ends rest) :
    Token.fraction (fractionWritten fraction ++ (exponentWritten exponent ++ rest)) =
      some (fraction, exponentWritten exponent ++ rest) := by
  cases fraction with
  | cons d more =>
      have stops : ∀ b ∈ (exponentWritten exponent ++ rest).head?, Token.digit? b = none :=
        @tail_ends [] exponent rest ends
      exact someDigits_written (List.cons_ne_nil d more) small stops
  | nil =>
      cases exponent with
      | some => rfl
      | none =>
          cases rest with
          | nil => rfl
          | cons b after =>
              rw [fractionWritten, exponentWritten, List.nil_append, List.nil_append, Token.fraction]
              rintro _ ⟨⟩
              exact (ends 0x2E rfl).2.1 rfl

theorem whole_written {whole : List Nat} (some_digits : whole ≠ [])
    (zero_alone : ∀ d more, whole ≠ 0 :: d :: more) (small : ∀ d ∈ whole, d < 10)
    {rest : List UInt8} (ends : ∀ b ∈ rest.head?, Token.digit? b = none) :
    Token.whole (whole.map digitByte ++ rest) = some (whole, rest) := by
  rw [Token.whole, digits_written small ends]
  rcases whole with _ | ⟨_ | d, _ | ⟨next, more⟩⟩
  · exact absurd rfl some_digits
  · rfl
  · exact absurd rfl (zero_alone next more)
  · rfl
  · rfl

theorem next_written {numeral : Numeral} (legible : numeral.Legible) {rest : List UInt8}
    (ends : Token.Ends rest) :
    Token.next (numeral.written ++ rest) = some (.number numeral, rest) := by
  obtain ⟨negative, whole, fraction, exponent⟩ := numeral
  obtain ⟨whole_ne, zero_alone, whole_digits, fraction_digits, exponent_ne, exponent_digits⟩ := legible
  dsimp only at whole_ne zero_alone whole_digits fraction_digits exponent_ne exponent_digits
  -- What follows the sign is read in the same way with and without it.
  have read (sign : Bool) : Token.magnitude sign (whole.map digitByte ++
      (fractionWritten fraction ++ (exponentWritten exponent ++ rest))) =
        some (.number ⟨sign, whole, fraction, exponent⟩, rest) := by
    simp only [Token.magnitude, whole_written whole_ne zero_alone whole_digits (tail_ends ends),
      fraction_written fraction_digits ends, exponent_written exponent_ne exponent_digits ends,
      Option.bind_eq_bind, Option.bind_some, Option.pure_def]
  rw [written, List.append_assoc, List.append_assoc, List.append_assoc]
  dsimp only
  cases negative with
  | true => exact read true
  | false =>
      cases whole with
      | nil => exact absurd rfl whole_ne
      | cons d more =>
          rw [if_neg Bool.false_ne_true, List.nil_append, ← read false, List.map_cons, List.cons_append]
          have digit := whole_digits d (.head _)
          interval_cases d <;> rfl

end Numeral

end Roster.Json
