import Roster.Proofs.Json.Reading

namespace Roster.Json

/-! Whatever is read from a text can be written again. -/

namespace Piece

theorem hexValue_lt {b : UInt8} {n : Nat} (found : Token.hexValue b = some n) : n < 0x10 := by
  unfold Token.hexValue at found
  simp only [UInt8.le_iff_toNat_le] at found
  repeat' split at found
  all_goals cases found
  all_goals simp at *
  all_goals omega

theorem codeUnit_lt {a b c d : UInt8} {unit : Nat} (found : Token.codeUnit a b c d = some unit) :
    unit < 0x10000 := by
  simp only [Token.codeUnit, Option.bind_eq_bind, Option.bind_eq_some_iff, Option.pure_def,
    Option.some.injEq] at found
  obtain ⟨_, first, _, second, _, third, _, fourth, rfl⟩ := found
  have := hexValue_lt first
  have := hexValue_lt second
  have := hexValue_lt third
  have := hexValue_lt fourth
  omega

theorem legible_of_escaped {e b : UInt8} (found : Token.escaped e = some b) :
    (byte b).Legible := by
  unfold Token.escaped at found
  repeat' split at found
  all_goals cases found
  · rename_i plain
    rcases plain with rfl | rfl | rfl <;> exact .inl (by decide)
  all_goals exact .inr rfl

theorem legible_of_pieces {bytes after : List UInt8} {pieces : List Piece}
    (found : Token.pieces bytes = some (pieces, after)) : ∀ piece ∈ pieces, piece.Legible := by
  fun_induction Token.pieces bytes generalizing pieces after with
  | case1 => cases found
  | case2 =>
      cases found
      exact List.forall_mem_nil _
  | case3 a b c d rest ih =>
      simp only [Option.bind_eq_bind, Option.bind_eq_some_iff, Option.pure_def,
        Option.some.injEq, Prod.mk.injEq] at found
      obtain ⟨unit, isUnit, ⟨more, _⟩, read, rfl, -⟩ := found
      exact List.forall_mem_cons.mpr ⟨codeUnit_lt isUnit, ih read⟩
  | case4 e rest _ ih =>
      simp only [Option.bind_eq_bind, Option.bind_eq_some_iff, Option.pure_def,
        Option.some.injEq, Prod.mk.injEq] at found
      obtain ⟨b, escapes, ⟨more, _⟩, read, rfl, -⟩ := found
      exact List.forall_mem_cons.mpr ⟨legible_of_escaped escapes, ih read⟩
  | case5 => cases found
  | case6 b rest _ _ _ printable ih =>
      simp only [Option.bind_eq_bind, Option.bind_eq_some_iff, Option.pure_def,
        Option.some.injEq, Prod.mk.injEq] at found
      obtain ⟨⟨more, _⟩, read, rfl, -⟩ := found
      exact List.forall_mem_cons.mpr ⟨.inl (UInt8.not_lt.mp printable), ih read⟩

end Piece

namespace Numeral

theorem digit?_lt {b : UInt8} {d : Nat} (found : Token.digit? b = some d) : d < 10 := by
  unfold Token.digit? at found
  split at found
  · rename_i bounds
    cases found
    simp only [UInt8.le_iff_toNat_le] at bounds
    simp at bounds
    omega
  · cases found

theorem lt_of_mem_digits {bytes : List UInt8} {d : Nat} (member : d ∈ (Token.digits bytes).1) :
    d < 10 := by
  induction bytes with
  | nil => cases member
  | cons b rest ih =>
      rw [Token.digits] at member
      split at member
      · rename_i digit
        rcases List.mem_cons.mp member with rfl | later
        · exact digit?_lt digit
        · exact ih later
      · cases member

theorem someDigits_spec {bytes after : List UInt8} {digits : List Nat}
    (found : Token.someDigits bytes = some (digits, after)) :
    digits ≠ [] ∧ ∀ d ∈ digits, d < 10 := by
  rw [Token.someDigits] at found
  split at found
  · cases found
  · rename_i some_digits
    have same := Option.some.inj found
    refine ⟨?_, fun d member => ?_⟩
    · rintro rfl
      exact some_digits _ same
    · have all := @lt_of_mem_digits bytes d
      rw [same] at all
      exact all member

theorem whole_spec {bytes after : List UInt8} {whole : List Nat}
    (found : Token.whole bytes = some (whole, after)) :
    whole ≠ [] ∧ (∀ d more, whole ≠ 0 :: d :: more) ∧ ∀ d ∈ whole, d < 10 := by
  rw [Token.whole] at found
  split at found
  · cases found
  · cases found
  · rename_i some_digits zero_alone
    have same := Option.some.inj found
    refine ⟨?_, ?_, fun d member => ?_⟩
    · rintro rfl
      exact some_digits _ same
    · rintro d more rfl
      exact zero_alone _ _ _ same
    · have all := @lt_of_mem_digits bytes d
      rw [same] at all
      exact all member

theorem fraction_spec {bytes after : List UInt8} {fraction : List Nat}
    (found : Token.fraction bytes = some (fraction, after)) : ∀ d ∈ fraction, d < 10 := by
  unfold Token.fraction at found
  split at found
  · exact (someDigits_spec found).2
  · cases found
    exact List.forall_mem_nil _

theorem exponentDigits_spec {negative : Bool} {bytes after : List UInt8}
    {exponent : Option (Bool × List Nat)}
    (found : Token.exponentDigits negative bytes = some (exponent, after)) :
    ∃ digits, exponent = some (negative, digits) ∧ digits ≠ [] ∧ ∀ d ∈ digits, d < 10 := by
  obtain ⟨⟨digits, _⟩, read, same⟩ := Option.map_eq_some_iff.mp found
  cases same
  exact ⟨digits, rfl, someDigits_spec read⟩

theorem exponent_spec {bytes after : List UInt8} {exponent : Option (Bool × List Nat)}
    (found : Token.exponent bytes = some (exponent, after)) :
    ∀ negative digits, exponent = some (negative, digits) →
      digits ≠ [] ∧ ∀ d ∈ digits, d < 10 := by
  have of_digits {sign : Bool} {rest : List UInt8}
      (read : Token.exponentDigits sign rest = some (exponent, after)) :
      ∀ negative digits, exponent = some (negative, digits) →
        digits ≠ [] ∧ ∀ d ∈ digits, d < 10 := by
    obtain ⟨digits, rfl, spec⟩ := exponentDigits_spec read
    rintro _ _ ⟨⟩
    exact spec
  unfold Token.exponent at found
  split at found
  · cases found
    exact nofun
  split at found
  · split at found
    · exact of_digits found
    · exact of_digits found
    · exact of_digits found
  · cases found
    exact nofun

theorem legible_of_magnitude {negative : Bool} {bytes after : List UInt8} {token : Token}
    (found : Token.magnitude negative bytes = some (token, after)) :
    ∃ numeral, token = .number numeral ∧ numeral.Legible := by
  simp only [Token.magnitude, Option.bind_eq_bind, Option.bind_eq_some_iff, Option.pure_def,
    Option.some.injEq, Prod.mk.injEq] at found
  obtain ⟨⟨whole, _⟩, isWhole, ⟨fraction, _⟩, isFraction, ⟨exponent, _⟩, isExponent, rfl, -⟩ := found
  obtain ⟨whole_ne, zero_alone, whole_digits⟩ := whole_spec isWhole
  exact ⟨_, rfl, {
    whole_ne, zero_alone, whole_digits
    fraction_digits := fraction_spec isFraction
    exponent_ne := fun negative digits same => (exponent_spec isExponent negative digits same).1
    exponent_digits := fun negative digits same => (exponent_spec isExponent negative digits same).2 }⟩

end Numeral

namespace Token

def Legible : Token → Prop
  | number numeral => numeral.Legible
  | string pieces => ∀ piece ∈ pieces, piece.Legible
  | _ => True

theorem legible_of_next {bytes after : List UInt8} {token : Token}
    (found : next bytes = some (token, after)) : token.Legible := by
  unfold next at found
  split at found
  case h_10 =>
      obtain ⟨⟨pieces, _⟩, read, same⟩ := Option.map_eq_some_iff.mp found
      cases same
      exact Piece.legible_of_pieces read
  case h_11 =>
      obtain ⟨numeral, rfl, legible⟩ := Numeral.legible_of_magnitude found
      exact legible
  case h_12 =>
      obtain ⟨numeral, rfl, legible⟩ := Numeral.legible_of_magnitude found
      exact legible
  all_goals
    cases found
    trivial

theorem legible_of_scan {bytes : List UInt8} {tokens : List Token}
    (scanned : scan bytes = some tokens) : ∀ token ∈ tokens, token.Legible := by
  fun_induction scan bytes generalizing tokens with
  | case1 =>
      cases scanned
      exact List.forall_mem_nil _
  | case2 => cases scanned
  | case3 bytes b rest _ token after found ih =>
      obtain ⟨more, later, rfl⟩ := Option.map_eq_some_iff.mp scanned
      exact List.forall_mem_cons.mpr ⟨legible_of_next found, ih later⟩

end Token

namespace Tree

/-- A field that a text can have. -/
structure LegibleField (field : List Piece × Tree) : Prop where
  key : ∀ piece ∈ field.1, piece.Legible
  value : field.2.Legible

theorem Legible.of_fields {fields : List (List Piece × Tree)}
    (legible : ∀ field ∈ fields, LegibleField field) : Legible (.object fields) :=
  .object (fun field member => (legible field member).key) fun field member =>
    (legible field member).value

def Frame.Legible : Frame → Prop
  | .array items => ∀ item ∈ items, item.Legible
  | .object fields key =>
    (∀ field ∈ fields, LegibleField field) ∧ ∀ piece ∈ key, piece.Legible

namespace Expect

def Legible : Expect → Prop
  | value stack => ∀ frame ∈ stack, frame.Legible
  | itemOrClose stack => ∀ frame ∈ stack, frame.Legible
  | keyOrClose stack => ∀ frame ∈ stack, frame.Legible
  | key fields stack => (∀ field ∈ fields, LegibleField field) ∧ ∀ frame ∈ stack, frame.Legible
  | colon fields name stack =>
    ((∀ field ∈ fields, LegibleField field) ∧ ∀ piece ∈ name, piece.Legible) ∧
      ∀ frame ∈ stack, frame.Legible
  | more tree stack => tree.Legible ∧ ∀ frame ∈ stack, frame.Legible

variable {expect next : Expect} {stack : List Frame} {token : Token}

theorem legible_onValue (stack_legible : ∀ frame ∈ stack, frame.Legible) (legible : token.Legible)
    (found : onValue stack token = some next) : next.Legible := by
  cases token with
  | null => cases found; exact ⟨.null, stack_legible⟩
  | true => cases found; exact ⟨.bool true, stack_legible⟩
  | false => cases found; exact ⟨.bool false, stack_legible⟩
  | number numeral => cases found; exact ⟨.number legible, stack_legible⟩
  | string pieces => cases found; exact ⟨.string legible, stack_legible⟩
  | openBracket => cases found; exact stack_legible
  | openBrace => cases found; exact stack_legible
  | closeBrace | closeBracket | colon | comma => cases found

theorem legible_onMore {tree : Tree} (tree_legible : tree.Legible)
    (stack_legible : ∀ frame ∈ stack, frame.Legible) (found : onMore tree stack token = some next) :
    next.Legible := by
  unfold onMore at found
  split at found
  · cases found
    obtain ⟨items_legible, stack_legible⟩ := List.forall_mem_cons.mp stack_legible
    exact List.forall_mem_cons.mpr
      ⟨List.forall_mem_cons.mpr ⟨tree_legible, items_legible⟩, stack_legible⟩
  · cases found
    obtain ⟨items_legible, stack_legible⟩ := List.forall_mem_cons.mp stack_legible
    refine ⟨.array fun item member => ?_, stack_legible⟩
    exact List.forall_mem_cons.mpr ⟨tree_legible, items_legible⟩ item (List.mem_reverse.mp member)
  · cases found
    obtain ⟨⟨fields_legible, name_legible⟩, stack_legible⟩ := List.forall_mem_cons.mp stack_legible
    exact ⟨List.forall_mem_cons.mpr ⟨⟨name_legible, tree_legible⟩, fields_legible⟩, stack_legible⟩
  · cases found
    obtain ⟨⟨fields_legible, name_legible⟩, stack_legible⟩ := List.forall_mem_cons.mp stack_legible
    refine ⟨.of_fields fun field member => ?_, stack_legible⟩
    exact List.forall_mem_cons.mpr ⟨⟨name_legible, tree_legible⟩, fields_legible⟩ field
      (List.mem_reverse.mp member)
  · cases found

theorem legible_step (expect_legible : expect.Legible) (legible : token.Legible)
    (found : expect.step token = some next) : next.Legible := by
  unfold step at found
  split at found
  · exact legible_onValue expect_legible legible found
  · cases found
    exact ⟨.array (List.forall_mem_nil _), expect_legible⟩
  · rename_i stack _
    have opened : ∀ frame ∈ Frame.array [] :: stack, frame.Legible :=
      List.forall_mem_cons.mpr ⟨List.forall_mem_nil _, expect_legible⟩
    exact legible_onValue opened legible found
  · cases found
    exact ⟨.of_fields (List.forall_mem_nil _), expect_legible⟩
  · cases found
    exact ⟨⟨List.forall_mem_nil _, legible⟩, expect_legible⟩
  · cases found
  · cases found
    exact ⟨⟨expect_legible.1, legible⟩, expect_legible.2⟩
  · cases found
  · cases found
    exact List.forall_mem_cons.mpr expect_legible
  · cases found
  · exact legible_onMore expect_legible.1 expect_legible.2 found

theorem legible_run {tokens : List Token} (expect_legible : expect.Legible)
    (legible : ∀ token ∈ tokens, token.Legible) (found : expect.run tokens = some next) :
    next.Legible := by
  induction tokens generalizing expect with
  | nil =>
      cases found
      exact expect_legible
  | cons token rest ih =>
      obtain ⟨first, later⟩ := List.forall_mem_cons.mp legible
      obtain ⟨expect, step, found⟩ := Option.bind_eq_some_iff.mp found
      exact ih (legible_step expect_legible first step) later found

end Expect

/-- The trees that can be written are those of texts. -/
theorem legible_iff {tree : Tree} : tree.Legible ↔ ∃ bytes, ofBytes bytes = some tree := by
  refine ⟨fun legible => ⟨_, ofBytes_written legible⟩, fun has_text => ?_⟩
  obtain ⟨bytes, read⟩ := has_text
  obtain ⟨tokens, scanned, found⟩ := Option.bind_eq_some_iff.mp read
  rw [ofTokens] at found
  split at found
  · rename_i run
    cases found
    have start : (Expect.value []).Legible := List.forall_mem_nil _
    exact (Expect.legible_run start (Token.legible_of_scan scanned) run).1
  · cases found

end Tree

end Roster.Json
