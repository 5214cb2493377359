import Mathlib.Data.List.TakeWhile
import Mathlib.Data.Nat.Digits.Defs
import Roster.Source.RetryAfter

/-! What a `Retry-After` header asks for. Digits are read into a word that they may not fit, but what
does not fit lies beyond the cap, so that the wait is that of the number which is written. -/

namespace Roster

namespace Text

/-- The number that decimal digits write. -/
def numberOf (digits : List Char) : Nat :=
  Nat.ofDigits 10 (digits.map fun c => c.toNat - '0'.toNat).reverse

@[simp] theorem numberOf_concat (digits : List Char) (c : Char) :
    numberOf (digits ++ [c]) = numberOf digits * 10 + (c.toNat - '0'.toNat) := by
  rw [numberOf, List.map_append, List.map_singleton, List.reverse_append, List.reverse_singleton,
    List.singleton_append, Nat.ofDigits_cons, numberOf]
  exact (Nat.add_comm _ _).trans (congrArg (· + _) (Nat.mul_comm 10 _))

theorem numberOf_append_le (digits more : List Char) :
    numberOf digits ≤ numberOf (digits ++ more) := by
  induction more generalizing digits with
  | nil => rw [List.append_nil]
  | cons c more ih =>
      have longer := ih (digits ++ [c])
      rw [numberOf_concat, List.append_assoc, List.singleton_append] at longer
      omega

namespace Numeral

/-- Digits are read to the end if their number lies below the limit. -/
theorem extend_numberOf {limit : Nat} {before digits : List Char}
    (decimal : ∀ c ∈ digits, c.isDigit = true) (small : numberOf before < limit) :
    extend limit (numberOf before) digits =
      if numberOf (before ++ digits) < limit then .ok (numberOf (before ++ digits))
      else .error .tooLarge := by
  induction digits generalizing before with
  | nil => rw [List.append_nil, if_pos small, extend]
  | cons c digits ih =>
      obtain ⟨digit, decimal⟩ := List.forall_mem_cons.mp decimal
      have regrouped : before ++ c :: digits = before ++ [c] ++ digits := by simp
      rw [extend, digit?, if_pos digit, regrouped]
      dsimp only
      rw [← numberOf_concat]
      split
      · rename_i small
        exact ih decimal small
      · rename_i large
        rw [if_neg]
        exact fun small => large (Nat.lt_of_le_of_lt (numberOf_append_le _ _) small)

end Numeral

/-- A text of digits has no sign that the reading would skip. -/
theorem numeral?_digits {limit : Nat} (positive : 0 < limit) {digits : List Char}
    (nonempty : digits ≠ []) (decimal : ∀ c ∈ digits, c.isDigit = true) :
    numeral? limit (String.ofList digits) =
      if numberOf digits < limit then some (numberOf digits) else none := by
  have read : Numeral.extend limit 0 digits =
      if numberOf digits < limit then .ok (numberOf digits) else .error .tooLarge :=
    @Numeral.extend_numberOf limit [] digits decimal positive
  have unsigned : numeral limit (String.ofList digits) = Numeral.extend limit 0 digits := by
    obtain ⟨c, rest, rfl⟩ := List.exists_cons_of_ne_nil nonempty
    have digit := decimal c List.mem_cons_self
    rw [numeral, String.toList_ofList]
    split
    · rename_i empty
      cases empty
    · rename_i sign
      cases sign
      cases digit
    · rename_i sign
      cases sign
      cases digit
    · rfl
  rw [numeral?, unsigned, read]
  split <;> rfl

/-! Blanks at both ends. -/

theorem exists_append_trimChars (text : List Char) :
    ∃ front back, text = front ++ trimChars text ++ back ∧
      (∀ c ∈ front, isBlank c = true) ∧ ∀ c ∈ back, isBlank c = true := by
  refine ⟨text.takeWhile isBlank, ((text.dropWhile isBlank).reverse.takeWhile isBlank).reverse,
    ?_, ?_, ?_⟩
  · rw [trimChars, List.append_assoc, ← List.reverse_append, List.takeWhile_append_dropWhile,
      List.reverse_reverse, List.takeWhile_append_dropWhile]
  · exact fun c member => List.mem_takeWhile_imp member
  · exact fun c member => List.mem_takeWhile_imp (List.mem_reverse.mp member)

theorem dropWhile_blanks {front core : List Char} (blank : ∀ c ∈ front, isBlank c = true)
    (nonempty : core ≠ []) (inked : ∀ c ∈ core, isBlank c = false) (rest : List Char) :
    (front ++ (core ++ rest)).dropWhile isBlank = core ++ rest := by
  obtain ⟨c, core, rfl⟩ := List.exists_cons_of_ne_nil nonempty
  rw [List.dropWhile_append_of_pos blank, List.cons_append]
  exact List.dropWhile_cons_of_neg (by rw [inked c List.mem_cons_self]; exact Bool.false_ne_true)

theorem trimChars_append {front core back : List Char} (blank : ∀ c ∈ front, isBlank c = true)
    (blank' : ∀ c ∈ back, isBlank c = true) (nonempty : core ≠ [])
    (inked : ∀ c ∈ core, isBlank c = false) : trimChars (front ++ core ++ back) = core := by
  have backwards : (back.reverse ++ (core.reverse ++ [])).dropWhile isBlank = core.reverse ++ [] :=
    dropWhile_blanks (fun c member => blank' c (List.mem_reverse.mp member))
      (by simpa using nonempty) (fun c member => inked c (List.mem_reverse.mp member)) []
  rw [List.append_nil] at backwards
  rw [trimChars, List.append_assoc, dropWhile_blanks blank nonempty inked, List.reverse_append,
    backwards, List.reverse_reverse]

theorem isBlank_of_isDigit {c : Char} (digit : c.isDigit = true) : isBlank c = false := by
  have bounds : 48 ≤ c.toNat ∧ c.toNat ≤ 57 := by
    simpa [Char.isDigit, UInt32.le_iff_toNat_le] using digit
  rw [Bool.eq_false_iff]
  simp only [isBlank, ne_eq, Bool.or_eq_true, Bool.and_eq_true, beq_iff_eq, decide_eq_true_eq]
  omega

end Text

namespace Source.RetryAfter

open Message (Header)

theorem toNat_min (a b : UInt64) : (min a b).toNat = min a.toNat b.toNat := by
  change (if a ≤ b then a else b).toNat = _
  simp only [UInt64.le_iff_toNat_le]
  split <;> omega

/-- What digits tell is cut off at a minute, whether it fits a word or not. -/
theorem toNat_min_secondsOf {digits : List Char} (nonempty : digits ≠ [])
    (decimal : ∀ c ∈ digits, c.isDigit = true) :
    (min (secondsOf digits) maxRetryAfterSecs).toNat = min 60 (Text.numberOf digits) := by
  have most : maxRetryAfterSecs.toNat = 60 := rfl
  rw [toNat_min, most, secondsOf, Text.numeral?_digits (by decide) nonempty decimal]
  split
  · rename_i small
    rw [Option.getD_some, UInt64.toNat_ofNat_of_lt' small, Nat.min_comm]
  · rename_i large
    have word : UInt64.size = 18446744073709551616 := rfl
    rw [Option.getD_none, UInt64.toNat_ofNat_of_lt' (by decide)]
    omega

/-! Bytes and the characters that they stand for. -/

/-- A visible character, a blank or a tab. -/
def IsPrintable (b : UInt8) : Prop := b = 0x09 ∨ 0x20 ≤ b ∧ b < 0x7F

/-- The bytes of the decimal digits. -/
def isDigit (b : UInt8) : Bool := decide (0x30 ≤ b) && decide (b ≤ 0x39)

def char (b : UInt8) : Char := Char.ofNat b.toNat

@[simp] theorem toNat_char (b : UInt8) : (char b).toNat = b.toNat := by
  have valid : b.toNat.isValidChar := .inl (Nat.lt_trans b.toNat_lt (by decide))
  rw [char, Char.ofNat, dif_pos valid]
  rfl

theorem isDigit_char (b : UInt8) : (char b).isDigit = isDigit b := by
  have same : (char b).val.toNat = b.toNat := toNat_char b
  rw [Bool.eq_iff_iff, Char.isDigit, isDigit]
  simp only [UInt8.le_iff_toNat_le, UInt32.le_iff_toNat_le, Bool.and_eq_true, decide_eq_true_eq,
    ge_iff_le, same]
  rfl

theorem isBlank_char {b : UInt8} (printable : IsPrintable b) :
    Text.isBlank (char b) = Header.isBlank b := by
  rw [Bool.eq_iff_iff]
  simp only [IsPrintable, Text.isBlank, toNat_char, Header.isBlank, Bool.or_eq_true,
    Bool.and_eq_true, beq_iff_eq, decide_eq_true_eq, UInt8.le_iff_toNat_le, UInt8.lt_iff_toNat_lt,
    ← UInt8.toNat_inj] at printable ⊢
  simp only [UInt8.reduceToNat] at printable ⊢
  omega

theorem isPrintable_of_isDigit {b : UInt8} (digit : isDigit b = true) : IsPrintable b := by
  simp only [isDigit, IsPrintable, Bool.and_eq_true, decide_eq_true_eq, UInt8.le_iff_toNat_le,
    UInt8.lt_iff_toNat_lt] at digit ⊢
  simp only [UInt8.reduceToNat] at digit ⊢
  omega

theorem isPrintable_of_isBlank {b : UInt8} (blank : Header.isBlank b = true) : IsPrintable b := by
  rw [Header.isBlank, Bool.or_eq_true, beq_iff_eq, beq_iff_eq] at blank
  rcases blank with rfl | rfl
  · exact .inr (by decide)
  · exact .inl rfl

theorem text?_eq_some {value : List UInt8} {text : List Char} :
    Header.text? value = some text ↔ (∀ b ∈ value, IsPrintable b) ∧ text = value.map char := by
  have printable : (value.all fun b => b == 0x09 || (0x20 ≤ b && b < 0x7F)) = true ↔
      ∀ b ∈ value, IsPrintable b := by
    simp [IsPrintable]
  rw [Header.text?]
  split
  · rename_i all
    rw [Option.some.injEq]
    exact ⟨fun same => ⟨printable.mp all, same.symm⟩, fun same => same.2.symm⟩
  · rename_i other
    exact iff_of_false (Option.some_ne_none text).symm fun same => other (printable.mpr same.1)

/-- The value is a number in decimal digits, with blanks and tabs around it if need be. -/
def Tells (value : List UInt8) (n : Nat) : Prop :=
  ∃ front digits back, value = front ++ digits ++ back ∧
    (∀ b ∈ front, Header.isBlank b = true) ∧ (∀ b ∈ back, Header.isBlank b = true) ∧
    digits ≠ [] ∧ (∀ b ∈ digits, isDigit b = true) ∧
    n = Nat.ofDigits 10 (digits.map fun b => b.toNat - 0x30).reverse

theorem numberOf_char (digits : List UInt8) :
    Text.numberOf (digits.map char) =
      Nat.ofDigits 10 (digits.map fun b => b.toNat - 0x30).reverse := by
  rw [Text.numberOf, List.map_map]
  refine congrArg (fun digits => Nat.ofDigits 10 (List.reverse digits))
    (List.map_congr_left fun b _ => ?_)
  rw [Function.comp_apply, toNat_char]
  rfl

theorem Tells.text? {value : List UInt8} {n : Nat} (tells : Tells value n) :
    ∃ text, Header.text? value = some text ∧ Text.trimChars text ≠ [] ∧
      (∀ c ∈ Text.trimChars text, c.isDigit = true) ∧ Text.numberOf (Text.trimChars text) = n := by
  obtain ⟨front, digits, back, rfl, blank, blank', nonempty, decimal, rfl⟩ := tells
  have printable : ∀ b ∈ front ++ digits ++ back, IsPrintable b := by
    simp only [List.mem_append]
    rintro b ((member | member) | member)
    · exact isPrintable_of_isBlank (blank b member)
    · exact isPrintable_of_isDigit (decimal b member)
    · exact isPrintable_of_isBlank (blank' b member)
  have decimal' : ∀ c ∈ digits.map char, c.isDigit = true := by
    simpa [isDigit_char] using decimal
  have blanks {bytes : List UInt8} (blank : ∀ b ∈ bytes, Header.isBlank b = true) :
      ∀ c ∈ bytes.map char, Text.isBlank c = true := by
    intro c member
    obtain ⟨b, inside, rfl⟩ := List.mem_map.mp member
    rw [isBlank_char (isPrintable_of_isBlank (blank b inside)), blank b inside]
  have trimmed : Text.trimChars ((front ++ digits ++ back).map char) = digits.map char := by
    rw [List.map_append, List.map_append]
    exact Text.trimChars_append (blanks blank) (blanks blank') (by simpa using nonempty)
      fun c member => Text.isBlank_of_isDigit (decimal' c member)
  refine ⟨_, text?_eq_some.mpr ⟨printable, rfl⟩, ?_⟩
  rw [trimmed]
  exact ⟨by simpa using nonempty, decimal', numberOf_char digits⟩

theorem tells_of_text? {value : List UInt8} {text : List Char}
    (printed : Header.text? value = some text) (nonempty : Text.trimChars text ≠ [])
    (decimal : ∀ c ∈ Text.trimChars text, c.isDigit = true) :
    Tells value (Text.numberOf (Text.trimChars text)) := by
  obtain ⟨printable, rfl⟩ := text?_eq_some.mp printed
  obtain ⟨front, back, whole, blank, blank'⟩ := Text.exists_append_trimChars (value.map char)
  generalize Text.trimChars (value.map char) = digits at nonempty decimal whole ⊢
  obtain ⟨rest, back, rfl, split, rfl⟩ := List.map_eq_append_iff.mp whole
  obtain ⟨front, digits, rfl, rfl, rfl⟩ := List.map_eq_append_iff.mp split
  have blanks {bytes : List UInt8} (printable : ∀ b ∈ bytes, IsPrintable b)
      (blank : ∀ c ∈ bytes.map char, Text.isBlank c = true) :
      ∀ b ∈ bytes, Header.isBlank b = true := by
    intro b member
    rw [← isBlank_char (printable b member)]
    exact blank _ (List.mem_map_of_mem member)
  refine ⟨front, digits, back, rfl, blanks (fun b member => ?_) blank,
    blanks (fun b member => ?_) blank', by simpa using nonempty, ?_, numberOf_char digits⟩
  · exact printable b (by simp [member])
  · exact printable b (by simp [member])
  · intro b member
    rw [← isDigit_char]
    exact decimal _ (List.mem_map_of_mem member)

/-- A value asks for a wait exactly if it tells a number, and then for that many seconds up to a
minute. -/
theorem ofValue?_eq_some {value : List UInt8} {wait : Span} :
    ofValue? value = some wait ↔ ∃ n, Tells value n ∧ wait.nanos = min 60 n * 1000000000 := by
  have readable (digits : List Char) : (digits.isEmpty || !digits.all Char.isDigit) = true ↔
      ¬ (digits ≠ [] ∧ ∀ c ∈ digits, c.isDigit = true) := by
    grind
  constructor
  · intro asks
    obtain ⟨text, printed, found⟩ := Option.bind_eq_some_iff.mp asks
    dsimp only at found
    split at found
    · cases found
    · rename_i told
      rw [readable, not_not] at told
      cases found
      refine ⟨_, tells_of_text? printed told.1 told.2, ?_⟩
      rw [Span.nanos_ofSecs, toNat_min_secondsOf told.1 told.2]
  · rintro ⟨n, tells, long⟩
    obtain ⟨text, printed, nonempty, decimal, rfl⟩ := tells.text?
    refine Option.bind_eq_some_iff.mpr ⟨text, printed, ?_⟩
    dsimp only
    rw [if_neg (by rw [readable, not_not]; exact ⟨nonempty, decimal⟩), Option.some.injEq]
    apply Span.ext
    rw [Span.nanos_ofSecs, toNat_min_secondsOf nonempty decimal, long]

theorem parse_eq_some {values : List (List UInt8)} {wait : Span} :
    parse values = some wait ↔ ∃ value rest n,
      values = value :: rest ∧ Tells value n ∧ wait.nanos = min 60 n * 1000000000 := by
  cases values with
  | nil => exact iff_of_false (fun told => by cases told) (by rintro ⟨value, rest, n, same, -⟩; cases same)
  | cons value rest =>
      rw [parse, ofValue?_eq_some]
      constructor
      · rintro ⟨n, tells, long⟩
        exact ⟨value, rest, n, rfl, tells, long⟩
      · rintro ⟨value, rest, n, same, tells, long⟩
        cases same
        exact ⟨n, tells, long⟩

theorem le_minute_of_parse {values : List (List UInt8)} {wait : Span}
    (told : parse values = some wait) : wait.nanos ≤ 60 * 1000000000 := by
  obtain ⟨value, rest, n, -, -, long⟩ := parse_eq_some.mp told
  rw [long]
  exact Nat.mul_le_mul_right _ (Nat.min_le_left 60 n)

end Source.RetryAfter

end Roster
