import Roster.Proofs.Database.Table
import Roster.Proofs.Store.Paging

namespace Roster

/-! The numbers of a listing, computed in machine words. An operation on words gives nothing where its
result does not fit; for a valid query all of them fit, however many rows there are. -/

namespace Word

def sub? (a b : UInt32) : Option UInt32 := if b ≤ a then some (a - b) else none

def add? (a b : UInt64) : Option UInt64 :=
  if a.toNat + b.toNat < UInt64.size then some (a + b) else none

def mul? (a b : UInt64) : Option UInt64 :=
  if a.toNat * b.toNat < UInt64.size then some (a * b) else none

def divUp? (a b : UInt64) : Option UInt64 :=
  if b = 0 then none else if a % b = 0 then some (a / b) else add? (a / b) 1

def signed? (a : UInt64) : Option Int64 :=
  if a.toNat ≤ Database.Store.maxOffset then some (.ofNat a.toNat) else none

theorem sub?_of_le {a b : UInt32} (le : b.toNat ≤ a.toNat) :
    (sub? a b).map UInt32.toNat = some (a.toNat - b.toNat) := by
  have le' : b ≤ a := UInt32.le_iff_toNat_le.mpr le
  rw [sub?, if_pos le', Option.map_some, UInt32.toNat_sub_of_le _ _ le']

theorem add?_of_lt {a b : UInt64} (fits : a.toNat + b.toNat < UInt64.size) :
    (add? a b).map UInt64.toNat = some (a.toNat + b.toNat) := by
  rw [add?, if_pos fits, Option.map_some, UInt64.toNat_add, Nat.mod_eq_of_lt fits]

theorem mul?_of_lt {a b : UInt64} (fits : a.toNat * b.toNat < UInt64.size) :
    (mul? a b).map UInt64.toNat = some (a.toNat * b.toNat) := by
  rw [mul?, if_pos fits, Option.map_some, UInt64.toNat_mul, Nat.mod_eq_of_lt fits]

theorem signed?_of_le {a : UInt64} (fits : a.toNat ≤ Database.Store.maxOffset) :
    (signed? a).map Int64.toInt = some (a.toNat : Int) := by
  rw [signed?, if_pos fits, Option.map_some, Database.toInt_ofNat fits]

theorem toNat_max (a b : UInt64) : (max a b).toNat = max a.toNat b.toNat := by
  change (if a ≤ b then b else a).toNat = _
  rw [Nat.max_def]
  by_cases le : a ≤ b
  · rw [if_pos le, if_pos (UInt64.le_iff_toNat_le.mp le)]
  · rw [if_neg le, if_neg (mt UInt64.le_iff_toNat_le.mpr le)]

theorem divUp_of_mod_eq_zero {a b : Nat} (pos : 0 < b) (exact : a % b = 0) :
    (a + b - 1) / b = a / b := by
  have whole := Nat.div_add_mod a b
  refine Nat.div_eq_of_lt_le ?_ ?_
  · rw [Nat.mul_comm]
    omega
  · rw [Nat.succ_mul, Nat.mul_comm]
    omega

theorem divUp_of_mod_pos {a b : Nat} (rest : 0 < a % b) (pos : 0 < b) :
    (a + b - 1) / b = a / b + 1 := by
  have whole := Nat.div_add_mod a b
  have small := Nat.mod_lt a pos
  refine Nat.div_eq_of_lt_le ?_ ?_
  · rw [Nat.succ_mul, Nat.mul_comm]
    omega
  · rw [Nat.succ_mul, Nat.succ_mul, Nat.mul_comm]
    omega

theorem divUp?_of_pos {a b : UInt64} (pos : 0 < b.toNat) :
    (divUp? a b).map UInt64.toNat = some ((a.toNat + b.toNat - 1) / b.toNat) := by
  have nonzero : b ≠ 0 := by
    rintro rfl
    exact absurd pos (Nat.lt_irrefl 0)
  have zero_iff : a % b = 0 ↔ a.toNat % b.toNat = 0 := by
    rw [← UInt64.toNat_mod]
    exact UInt64.toNat_inj.symm
  rw [divUp?, if_neg nonzero]
  by_cases exact : a % b = 0
  · rw [if_pos exact, Option.map_some, UInt64.toNat_div,
      divUp_of_mod_eq_zero pos (zero_iff.mp exact)]
  · have rest : 0 < a.toNat % b.toNat := Nat.pos_of_ne_zero (mt zero_iff.mpr exact)
    have whole := Nat.div_add_mod a.toNat b.toNat
    -- What does not go evenly leaves room for the one that is added.
    have below : a.toNat / b.toNat ≤ b.toNat * (a.toNat / b.toNat) :=
      Nat.le_mul_of_pos_left _ pos
    have fits : (a / b).toNat + (1 : UInt64).toNat < UInt64.size := by
      have bounded := a.toNat_lt_size
      change (a / b).toNat + 1 < _
      rw [UInt64.toNat_div]
      omega
    rw [if_neg exact, add?_of_lt fits, UInt64.toNat_div, divUp_of_mod_pos rest pos]
    rfl

end Word

namespace Listing.Query

def wordOffset? (query : Query) : Option UInt64 := do
  let before ← Word.sub? query.page 1
  Word.mul? before.toUInt64 query.size.toUInt64

def wordTotalPages? (query : Query) (total : UInt64) : Option UInt64 :=
  (Word.divUp? total query.size.toUInt64).map (max 1)

/-- The first page is never out of range; for it the offset is not computed. -/
def wordOutOfRange? (query : Query) (total : UInt64) : Option Bool :=
  if 1 < query.page then query.wordOffset?.map fun offset => decide (total ≤ offset)
  else some false

def wordHasNext? (query : Query) (total : UInt64) : Option Bool :=
  (query.wordTotalPages? total).map fun pages => decide (query.page.toUInt64 < pages)

variable (query : Query) (total : UInt64)

theorem wordOffset?_eq : query.wordOffset?.map UInt64.toNat = some query.offset := by
  obtain ⟨before, subtracts, before_eq⟩ :=
    Option.map_eq_some_iff.mp (Word.sub?_of_le (a := query.page) (b := 1) query.page_pos)
  have factors : before.toUInt64.toNat * query.size.toUInt64.toNat = query.offset := by
    rw [UInt32.toNat_toUInt64, UInt32.toNat_toUInt64, before_eq]
    rfl
  have fits : before.toUInt64.toNat * query.size.toUInt64.toNat < UInt64.size := by
    rw [factors]
    exact Nat.lt_of_le_of_lt (Database.offset_le query) (by decide)
  rw [wordOffset?, subtracts, ← factors]
  exact Word.mul?_of_lt fits

theorem wordTotalPages?_eq :
    (query.wordTotalPages? total).map UInt64.toNat = some (query.totalPages total.toNat) := by
  have size_eq : query.size.toUInt64.toNat = query.size.toNat := UInt32.toNat_toUInt64 _
  have pos : 0 < query.size.toUInt64.toNat := size_eq ▸ query.size_pos
  obtain ⟨pages, divides, pages_eq⟩ :=
    Option.map_eq_some_iff.mp (Word.divUp?_of_pos (a := total) pos)
  rw [wordTotalPages?, divides, Option.map_some, Option.map_some, totalPages, ← size_eq, ← pages_eq,
    Option.some.injEq, Word.toNat_max]
  rfl

theorem wordOutOfRange?_eq :
    query.wordOutOfRange? total = some (query.isOutOfRange total.toNat) := by
  obtain ⟨offset, computes, offset_eq⟩ := Option.map_eq_some_iff.mp query.wordOffset?_eq
  rw [wordOutOfRange?, isOutOfRange, computes, ← offset_eq]
  by_cases later : 1 < query.page
  · have later' : 1 < query.page.toNat := UInt32.lt_iff_toNat_lt.mp later
    simp [later, later', UInt64.le_iff_toNat_le]
  · have first : ¬ 1 < query.page.toNat := fun lt => later (UInt32.lt_iff_toNat_lt.mpr lt)
    simp [later, first]

theorem wordHasNext?_eq :
    query.wordHasNext? total =
      some (decide (query.page.toNat < query.totalPages total.toNat)) := by
  obtain ⟨pages, computes, pages_eq⟩ := Option.map_eq_some_iff.mp (query.wordTotalPages?_eq total)
  simp [wordHasNext?, computes, ← pages_eq, UInt64.lt_iff_toNat_lt]

theorem offset_add_size : query.offset + query.size.toNat = query.page.toNat * query.size.toNat := by
  have page_pos := query.page_pos
  rw [offset, ← Nat.succ_mul, Nat.succ_eq_add_one, Nat.sub_add_cancel page_pos]

end Listing.Query

namespace Database

theorem Failure.toStoreError_ne_invalidQuery (failure : Failure) (operation reason : String) :
    failure.toStoreError operation ≠ .invalidQuery reason := by
  cases failure with
  | refused code message =>
      rw [toStoreError]
      split <;> simp
  | _ => simp [toStoreError]

theorem readRows_ne_invalidQuery (rows : List Row) (reason : String) :
    Store.readRows rows ≠ .error (.invalidQuery reason) := by
  rw [Store.readRows]
  cases rows.mapM Row.character with
  | ok characters => simp [Except.mapError]
  | error failure =>
      intro same
      exact failure.toStoreError_ne_invalidQuery _ _ (Except.error.inj same)

theorem Store.query_ne_invalidQuery {σ : Type} (server : Server σ) (store : Store σ)
    (query : Listing.Query) (reason : String) :
    (store.query server query).2 ≠ .error (.invalidQuery reason) := by
  rw [Store.query, if_neg (Nat.not_lt.mpr (offset_le query)), perform]
  dsimp only
  cases (run server store (.query query)).2 with
  | error failure =>
      intro same
      exact failure.toStoreError_ne_invalidQuery _ _ (Except.error.inj same)
  | ok found =>
      intro same
      change (readRows found.2).map _ = _ at same
      cases reads : readRows found.2 with
      | ok characters =>
          rw [reads] at same
          cases same
      | error error =>
          rw [reads] at same
          exact readRows_ne_invalidQuery found.2 reason (reads.trans (congrArg _ (Except.error.inj same)))

end Database

namespace Listing

/-- For a valid query and any number of rows that a word can hold, all numbers of the listing are
computed without overflow. The offset fits a signed word, so that no database refuses the query. A
page is out of range just if it lies behind the last one; then no page follows it. -/
theorem Query.computes_in_words (query : Query) (total : UInt64) (records : List Character) :
    let slice := Slice.ofRows query records total.toNat
    let page := Page.ofSlice query slice
    query.wordOffset?.map UInt64.toNat = some query.offset ∧
    (query.wordOffset?.bind Word.signed?).map Int64.toInt = some (query.offset : Int) ∧
    (∀ (σ : Type) (server : Database.Server σ) (store : Database.Store σ) (reason : String),
      (store.query server query).2 ≠ .error (.invalidQuery reason)) ∧
    (query.wordTotalPages? total).map UInt64.toNat = some page.totalPages ∧
    query.wordOutOfRange? total = some slice.outOfRange ∧
    (slice.outOfRange = true ↔ page.totalPages < page.page.toNat) ∧
    query.wordHasNext? total = some page.hasNext ∧
    (page.hasNext = true ↔ query.offset + query.size.toNat < total.toNat) ∧
    (page.hasPrev = true ↔ 1 < page.page.toNat) ∧
    (slice.outOfRange = true → page.hasNext = false) := by
  intro slice page
  have beyond : slice.outOfRange = true ↔ page.totalPages < page.page.toNat :=
    Query.isOutOfRange_iff
  refine ⟨query.wordOffset?_eq, ?_, fun _ server store => store.query_ne_invalidQuery server query,
    query.wordTotalPages?_eq total, query.wordOutOfRange?_eq total, beyond,
    query.wordHasNext?_eq total, ?_, decide_eq_true_iff, ?_⟩
  · obtain ⟨offset, computes, offset_eq⟩ := Option.map_eq_some_iff.mp query.wordOffset?_eq
    have fits : offset.toNat ≤ Database.Store.maxOffset := offset_eq ▸ Database.offset_le query
    rw [computes, Option.bind_some, Word.signed?_of_le fits, offset_eq]
  · rw [offset_add_size, ← Query.lt_totalPages_iff query.page_pos]
    exact decide_eq_true_iff
  · intro outOfRange
    exact decide_eq_false (Nat.not_lt.mpr (Nat.le_of_lt (beyond.mp outOfRange)))

end Listing

end Roster
