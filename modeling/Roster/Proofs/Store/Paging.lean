import Mathlib.Data.List.FinRange
import Roster.Proofs.Listing.Order

namespace Roster

/-! The pages of a listing. One after the other they give all characters in their order; a page is
out of range if and only if it lies behind the last one, and then it is empty. -/

theorem flatten_pieces {α : Type} (items : List α) (size count : Nat) :
    ((List.range count).map fun place => (items.drop (place * size)).take size).flatten =
      items.take (count * size) := by
  induction count with
  | zero => simp
  | succ count ih =>
      rw [List.range_succ, List.map_append, List.flatten_append, ih, Nat.succ_mul, List.take_add]
      simp

namespace Listing.Query

/-- The queries for the pages of the same listing from the first to one with this number. -/
def pagesTo (query : Query) (last : UInt32) : List Query :=
  (List.finRange last.toNat).map fun (place : Fin last.toNat) =>
    { query with
      page := .ofNat (place.val + 1)
      page_pos := by
        have bounded : place.val + 1 < UInt32.size :=
          Nat.lt_of_le_of_lt place.isLt last.toNat_lt
        rw [UInt32.toNat_ofNat_of_lt' bounded]
        exact Nat.le_add_left 1 place }

variable {query : Query} {total : Nat}

theorem lt_totalPages_iff {number : Nat} (pos : 0 < number) :
    number < query.totalPages total ↔ number * query.size.toNat < total := by
  have size_pos := query.size_pos
  have rounded : number < (total + query.size.toNat - 1) / query.size.toNat ↔
      (number + 1) * query.size.toNat ≤ total + query.size.toNat - 1 :=
    Nat.le_div_iff_mul_le size_pos
  rw [Nat.succ_mul] at rounded
  rw [totalPages]
  omega

theorem totalPages_pos : 0 < query.totalPages total := Nat.le_max_left ..

theorem le_totalPages_mul : total ≤ query.totalPages total * query.size.toNat :=
  Nat.not_lt.mp fun short => Nat.lt_irrefl _ ((lt_totalPages_iff totalPages_pos).mpr short)

theorem isOutOfRange_iff :
    query.isOutOfRange total = true ↔ query.totalPages total < query.page.toNat := by
  have page_pos := query.page_pos
  rw [isOutOfRange, Bool.and_eq_true, decide_eq_true_eq, decide_eq_true_eq, offset]
  by_cases first : query.page.toNat = 1
  · have pages_pos : 0 < query.totalPages total := totalPages_pos
    omega
  · have before : 0 < query.page.toNat - 1 := by omega
    have reaches : query.page.toNat - 1 < query.totalPages total ↔
        (query.page.toNat - 1) * query.size.toNat < total := lt_totalPages_iff before
    omega

end Listing.Query

namespace Store.Memory

open Listing

variable (store : Memory) (query : Query)

theorem records_pagesTo (last : UInt32) :
    (query.pagesTo last).map (fun page => (store.query page).records) =
      (List.range last.toNat).map fun place =>
        ((store.ordered query).drop (place * query.size.toNat)).take query.size.toNat := by
  rw [Query.pagesTo, List.map_map, ← List.map_coe_finRange_eq_range, List.map_map]
  apply List.map_congr_left
  intro place _
  have number : (UInt32.ofNat (place.val + 1)).toNat = place.val + 1 :=
    UInt32.toNat_ofNat_of_lt' (Nat.lt_of_le_of_lt place.isLt last.toNat_lt)
  change ((store.ordered query).drop (((UInt32.ofNat (place.val + 1)).toNat - 1) * _)).take _ = _
  rw [number]
  rfl

theorem flatten_pagesTo (last : UInt32) :
    ((query.pagesTo last).map fun page => (store.query page).records).flatten =
      (store.ordered query).take (last.toNat * query.size.toNat) := by
  rw [records_pagesTo, flatten_pieces]

theorem length_records :
    (store.query query).records.length = min query.size.toNat (store.count - query.offset) := by
  change (((store.ordered query).drop query.offset).take query.size.toNat).length = _
  rw [List.length_take, List.length_drop, length_ordered]

theorem length_records_of_lt (before : query.page.toNat < query.totalPages store.count) :
    (store.query query).records.length = query.size.toNat := by
  have page_pos := query.page_pos
  have reaches := (Query.lt_totalPages_iff page_pos).mp before
  have one := Nat.le_mul_of_pos_left query.size.toNat page_pos
  rw [length_records, Query.offset, Nat.sub_mul]
  omega

theorem records_of_isOutOfRange (beyond : query.isOutOfRange store.count = true) :
    (store.query query).records = [] := by
  rw [Query.isOutOfRange, Bool.and_eq_true, decide_eq_true_eq, decide_eq_true_eq] at beyond
  apply List.eq_nil_of_length_eq_zero
  rw [length_records]
  omega

/-- A listing has all stored characters, each once, in the order of the query, and downwards it is
the other way round. The pages from the first on are the listing cut in pieces, up to the last one
all of it. A page before the last is full. No page up to the last is out of range; every later one
is, and it is empty. All of them tell how many characters there are. Pages are numbered in 32 bits: of
more pages than that there is no last one to ask for, and only the first of them can be had. -/
theorem query_tiles (store : Memory) (query : Query) :
    let listing := store.ordered query
    let last := query.totalPages store.count
    let slice := store.query query
    let firstPages (number : UInt32) :=
      ((query.pagesTo number).map fun page => (store.query page).records).flatten
    listing.Perm store.rows.rows ∧ listing.Pairwise query.Precedes ∧
    store.ordered { query with direction := .descending } =
      (store.ordered { query with direction := .ascending }).reverse ∧
    (∀ number, firstPages number = listing.take (number.toNat * query.size.toNat)) ∧
    (∀ number, number.toNat = last → firstPages number = listing) ∧
    (query.page.toNat < last → slice.records.length = query.size.toNat) ∧
    (query.page.toNat ≤ last → slice.outOfRange = false) ∧
    (last < query.page.toNat → slice.records = [] ∧ slice.outOfRange = true) ∧
    slice.total = store.count := by
  intro listing last slice firstPages
  refine ⟨store.perm_ordered query, store.pairwise_ordered query, ?_,
    store.flatten_pagesTo query, ?_, store.length_records_of_lt query, ?_, ?_, rfl⟩
  · exact store.ordered_reverse fun _ _ => Iff.rfl
  · intro number atLast
    have enough : listing.length ≤ number.toNat * query.size.toNat := by
      rw [atLast, length_ordered]
      exact Query.le_totalPages_mul
    exact (store.flatten_pagesTo query number).trans (List.take_of_length_le enough)
  · intro upToLast
    change query.isOutOfRange store.count = false
    rw [← Bool.not_eq_true, Query.isOutOfRange_iff]
    exact Nat.not_lt.mpr upToLast
  · intro later
    have beyond := Query.isOutOfRange_iff.mpr later
    exact ⟨store.records_of_isOutOfRange query beyond, beyond⟩

end Store.Memory

end Roster
