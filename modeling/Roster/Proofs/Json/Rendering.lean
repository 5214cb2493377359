import Mathlib.Data.List.Forall2
import Roster.Proofs.Json.Reading

namespace Roster.Json

/-! The text of a value is the text of a tree. -/

theorem toList_loop (bytes : ByteArray) (position : Nat) (before : List UInt8) :
    ByteArray.toList.loop bytes position before =
      before.reverse ++ bytes.data.toList.drop position := by
  fun_induction ByteArray.toList.loop bytes position before with
  | case1 position before more ih =>
      have bounded : position < bytes.data.toList.length := more
      have same : bytes.get! position = bytes.data.toList[position] :=
        getElem!_pos bytes.data position more
      rw [ih, List.reverse_cons, List.append_assoc, List.singleton_append, same,
        ← List.drop_eq_getElem_cons bounded]
  | case2 position before last =>
      have beyond : bytes.data.toList.length ≤ position := Nat.le_of_not_lt last
      rw [List.drop_eq_nil_of_le beyond, List.append_nil]

/-- The characters of a value, encoded. -/
def encoded (json : Json) : List UInt8 := json.chars.flatMap String.utf8EncodeChar

theorem toUTF8_render (json : Json) : json.render.toUTF8.toList = json.encoded := by
  change ByteArray.toList.loop (String.ofList json.chars).toByteArray 0 [] = _
  rw [toList_loop, String.toByteArray_ofList, List.utf8Encode, List.toList_data_toByteArray,
    List.drop_zero]
  rfl

/-! Strings. -/

theorem utf8EncodeChar_of_lt {c : Char} (ascii : c.toNat < 0x80) :
    String.utf8EncodeChar c = [UInt8.ofNat c.toNat] :=
  if_pos (Nat.le_of_lt_succ ascii)

theorem le_of_mem_utf8EncodeChar {c : Char} (beyond : 0x80 ≤ c.toNat) {b : UInt8}
    (member : b ∈ String.utf8EncodeChar c) : 0x80 ≤ b := by
  have wide : ¬ c.val.toNat ≤ 0x7f := Nat.not_le_of_lt beyond
  rw [UInt8.le_iff_toNat_le]
  unfold String.utf8EncodeChar at member
  dsimp only at member
  rw [if_neg wide] at member
  split at member
  · simp only [List.mem_cons, List.not_mem_nil, or_false] at member
    rcases member with rfl | rfl <;> simp <;> omega
  split at member
  · simp only [List.mem_cons, List.not_mem_nil, or_false] at member
    rcases member with rfl | rfl | rfl <;> simp <;> omega
  · simp only [List.mem_cons, List.not_mem_nil, or_false] at member
    rcases member with rfl | rfl | rfl | rfl <;> simp <;> omega

namespace Piece

/-- What is read for a character that is written between quotes. -/
def ofChar (c : Char) : List Piece :=
  if c.toNat < 0x20 ∧ letter? (UInt8.ofNat c.toNat) = none then [.code c.toNat]
  else (String.utf8EncodeChar c).map .byte

def ofText (text : String) : List Piece := text.toList.flatMap ofChar

theorem letter?_of_le {b : UInt8} (beyond : 0x80 ≤ b) : letter? b = none := by
  unfold letter?
  repeat' split
  all_goals first | rfl | (subst b; exact absurd beyond (by decide))

theorem ofChar_of_le {c : Char} (beyond : 0x80 ≤ c.toNat) :
    ofChar c = (String.utf8EncodeChar c).map .byte :=
  if_neg fun control => absurd control.1 (by omega)

theorem legible_ofChar (c : Char) : ∀ piece ∈ ofChar c, piece.Legible := by
  intro piece member
  by_cases ascii : c.toNat < 0x80
  · rw [ofChar, utf8EncodeChar_of_lt ascii] at member
    split at member
    · rename_i control
      cases List.mem_singleton.mp member
      exact Nat.lt_trans control.1 (by decide)
    · rename_i plain
      cases List.mem_singleton.mp member
      by_cases control : c.toNat < 0x20
      · exact .inr (Option.isSome_iff_ne_none.mpr fun none => plain ⟨control, none⟩)
      · refine .inl (UInt8.le_iff_toNat_le.mpr ?_)
        simp
        omega
  · have beyond : 0x80 ≤ c.toNat := Nat.le_of_not_lt ascii
    rw [ofChar_of_le beyond] at member
    obtain ⟨b, encodes, rfl⟩ := List.mem_map.mp member
    exact .inl (UInt8.le_trans (by decide) (le_of_mem_utf8EncodeChar beyond encodes))

theorem written_ofChar_ascii : ∀ n < 0x80, (ofChar (Char.ofNat n)).flatMap written =
    (escape (Char.ofNat n)).flatMap String.utf8EncodeChar := by decide

theorem escape_of_le {c : Char} (beyond : 0x80 ≤ c.toNat) : escape c = [c] := by
  have apart {d : Char} (ascii : d.toNat < 0x80) : c ≠ d := by
    rintro rfl
    omega
  have printable : ¬ c.toNat < 32 := by omega
  rw [escape, if_neg (apart (by decide)), if_neg (apart (by decide)), if_neg (apart (by decide)),
    if_neg (apart (by decide)), if_neg (apart (by decide)), if_neg (apart (by decide)),
    if_neg (apart (by decide)), if_neg printable]

theorem written_ofChar (c : Char) :
    (ofChar c).flatMap written = (escape c).flatMap String.utf8EncodeChar := by
  by_cases ascii : c.toNat < 0x80
  · have same := written_ofChar_ascii c.toNat ascii
    rwa [Char.ofNat_toNat] at same
  · have beyond : 0x80 ≤ c.toNat := Nat.le_of_not_lt ascii
    rw [ofChar_of_le beyond, escape_of_le beyond, List.flatMap_map, List.flatMap_singleton]
    have each : ∀ b ∈ String.utf8EncodeChar c, written (.byte b) = [b] := by
      intro b member
      rw [written, letter?_of_le (le_of_mem_utf8EncodeChar beyond member)]
    exact (List.flatMap_congr each).trans (List.flatMap_pure_eq_map id _ |>.trans (List.map_id _))

theorem legible_ofText (text : String) : ∀ piece ∈ ofText text, piece.Legible := by
  intro piece member
  obtain ⟨c, -, member⟩ := List.mem_flatMap.mp member
  exact legible_ofChar c piece member

theorem quoted_ofText (text : String) :
    quoted (ofText text) = (quote text).flatMap String.utf8EncodeChar := by
  rw [quoted, quote, ofText, List.cons_append, List.flatMap_cons, List.flatMap_append,
    List.flatMap_assoc, List.flatMap_assoc]
  simp only [written_ofChar]
  rfl

/-! What is read is the string that was written. -/

theorem bytes_code {unit : Nat} (plain : unit < 0xD800) (rest : List Piece) :
    bytes (.code unit :: rest) =
      (bytes rest).map (String.utf8EncodeChar (Char.ofNat unit) ++ ·) := by
  -- What follows matters to surrogates only.
  have high : isHighSurrogate unit = false := by
    simp [isHighSurrogate]
    omega
  have low : isLowSurrogate unit = false := by
    simp [isLowSurrogate]
    omega
  cases rest with
  | nil => simp [bytes, high, low]
  | cons piece rest =>
      cases piece with
      | byte => simp [bytes, high, low]
      | code => simp [bytes, high, low]

theorem bytes_map (values : List UInt8) (rest : List Piece) :
    bytes (values.map .byte ++ rest) = (bytes rest).map (values ++ ·) := by
  induction values with
  | nil =>
      rw [List.map_nil, List.nil_append]
      cases bytes rest <;> rfl
  | cons b more ih =>
      rw [List.map_cons, List.cons_append, bytes, ih]
      cases bytes rest <;> rfl

theorem bytes_ofChar (c : Char) (rest : List Piece) :
    bytes (ofChar c ++ rest) = (bytes rest).map (String.utf8EncodeChar c ++ ·) := by
  rw [ofChar]
  split
  · rename_i control
    rw [List.singleton_append, bytes_code (by omega), Char.ofNat_toNat]
  · exact bytes_map _ rest

theorem text?_ofText (text : String) : text? (ofText text) = some text := by
  have read (chars : List Char) :
      bytes (chars.flatMap ofChar) = some (chars.flatMap String.utf8EncodeChar) := by
    induction chars with
    | nil => rfl
    | cons c rest ih =>
        rw [List.flatMap_cons, bytes_ofChar, ih]
        rfl
  have same : (⟨(text.toList.flatMap String.utf8EncodeChar).toArray⟩ : ByteArray) =
      text.toByteArray := by
    rw [← String.utf8Encode_toList, List.utf8Encode]
    exact ByteArray.ext List.data_toByteArray.symm
  rw [text?, ofText, read, Option.bind_some, same]
  exact dif_pos text.isValidUTF8

end Piece

/-! Integers. -/

namespace Numeral

def digitsOf (n : Nat) : List Nat := (Nat.toDigits 10 n).map fun c => c.toNat - '0'.toNat

def ofInt (n : Int) : Numeral := ⟨decide (n < 0), digitsOf n.natAbs, [], none⟩

theorem bounds_of_mem_toDigits {n : Nat} {c : Char} (member : c ∈ Nat.toDigits 10 n) :
    48 ≤ c.toNat ∧ c.toNat ≤ 57 := by
  have digit := Nat.isDigit_of_mem_toDigits (by decide) (by decide) member
  simp only [Char.isDigit, Bool.and_eq_true, decide_eq_true_eq, ge_iff_le, UInt32.le_iff_toNat_le]
    at digit
  exact digit

theorem lt_of_mem_digitsOf {n d : Nat} (member : d ∈ digitsOf n) : d < 10 := by
  obtain ⟨c, digit, rfl⟩ := List.mem_map.mp member
  have bounds := bounds_of_mem_toDigits digit
  change c.toNat - 48 < 10
  omega

theorem ofDigits_digitsOf (n : Nat) : ofDigits (digitsOf n) = n := by
  have read := Nat.ofDigitChars_ten_toDigits (n := n)
  rw [Nat.ofDigitChars_eq_foldl] at read
  rw [ofDigits, digitsOf, List.foldl_map]
  simpa only [Nat.mul_comm] using read

theorem digitsOf_of_lt : ∀ n < 10, digitsOf n = [n] := by decide

theorem digitsOf_of_le {n : Nat} (large : 10 ≤ n) :
    digitsOf n = digitsOf (n / 10) ++ [n % 10] := by
  have last : ∀ d < 10, d.digitChar.toNat - '0'.toNat = d := by decide
  rw [digitsOf, Nat.toDigits_of_base_le (by decide) large, List.map_append, List.map_singleton,
    last _ (Nat.mod_lt n (by decide))]
  rfl

theorem head?_digitsOf {n : Nat} (positive : 0 < n) : ∀ d ∈ (digitsOf n).head?, d ≠ 0 := by
  -- The digits of a number begin with those of its tenth part.
  induction n using Nat.strongRecOn with
  | ind n ih =>
      by_cases small : n < 10
      · rw [digitsOf_of_lt n small]
        rintro _ ⟨⟩
        exact Nat.ne_of_gt positive
      · have first := ih (n / 10) (by omega) (by omega)
        rw [digitsOf_of_le (Nat.le_of_not_lt small), List.head?_append]
        cases found : (digitsOf (n / 10)).head? with
        | none =>
            have ne : Nat.toDigits 10 (n / 10) ≠ [] := Nat.toDigits_ne_nil
            exact absurd (List.map_eq_nil_iff.mp (List.head?_eq_none_iff.mp found)) ne
        | some d => exact fun e same => first e (found.trans same)

theorem legible_ofInt (n : Int) : (ofInt n).Legible where
  whole_ne := fun empty => Nat.toDigits_ne_nil (List.map_eq_nil_iff.mp empty)
  zero_alone := by
    intro d more starts
    change digitsOf n.natAbs = 0 :: d :: more at starts
    by_cases zero : n.natAbs = 0
    · rw [zero] at starts
      cases starts
    · exact head?_digitsOf (Nat.pos_of_ne_zero zero) 0 (by rw [starts]; rfl) rfl
  whole_digits := fun _ => lt_of_mem_digitsOf
  fraction_digits := nofun
  exponent_ne := nofun
  exponent_digits := nofun

theorem int?_ofInt {n : Int} (least : -0x8000000000000000 ≤ n) (most : n < UInt64.size) :
    (ofInt n).int? = some n := by
  change n < 0x10000000000000000 at most
  rw [int?, if_neg (by simp [ofInt])]
  change (if decide (n < 0) = true then
      if ofDigits (digitsOf n.natAbs) ≠ 0 ∧ ofDigits (digitsOf n.natAbs) ≤ 0x8000000000000000 then
        some (-(ofDigits (digitsOf n.natAbs) : Int)) else none
    else if ofDigits (digitsOf n.natAbs) < UInt64.size then
      some (ofDigits (digitsOf n.natAbs) : Int) else none) = some n
  rw [ofDigits_digitsOf]
  by_cases negative : n < 0
  · rw [if_pos (decide_eq_true negative), if_pos (by omega)]
    exact congrArg some (by omega)
  · have small : n.natAbs < UInt64.size := by
      change _ < 0x10000000000000000
      omega
    rw [if_neg (by simpa using negative), if_pos small]
    exact congrArg some (by omega)

theorem written_digitsOf (n : Nat) :
    (digitsOf n).map digitByte = (Nat.toDigits 10 n).flatMap String.utf8EncodeChar := by
  have each : ∀ c ∈ Nat.toDigits 10 n,
      String.utf8EncodeChar c = [digitByte (c.toNat - '0'.toNat)] := by
    intro c member
    have bounds := bounds_of_mem_toDigits member
    have same : 0x30 + (c.toNat - '0'.toNat) = c.toNat := by
      change 48 + (c.toNat - 48) = c.toNat
      omega
    rw [utf8EncodeChar_of_lt (by omega), digitByte, same]
  rw [List.flatMap_congr each, digitsOf, List.map_map]
  exact (List.flatMap_pure_eq_map _ _).symm

theorem written_ofInt (n : Int) :
    (ofInt n).written = (toString n).toList.flatMap String.utf8EncodeChar := by
  have tail : fractionWritten [] ++ exponentWritten none = [] := rfl
  rw [written, ofInt]
  dsimp only
  rw [tail, List.append_nil, written_digitsOf]
  cases n with
  | ofNat m =>
      change _ = (Nat.repr m).toList.flatMap _
      rw [Nat.toList_repr]
      rfl
  | negSucc m =>
      change _ = ("-" ++ Nat.repr (m + 1)).toList.flatMap _
      have sign : "-".toList.flatMap String.utf8EncodeChar = [0x2D] := by decide
      rw [String.toList_append, List.flatMap_append, Nat.toList_repr, sign,
        if_pos (decide_eq_true (Int.negSucc_lt_zero m))]
      rfl

end Numeral

end Roster.Json
