import Mathlib.Data.String.Basic
import Roster.Store.Memory

namespace Roster

/-! The orders in which characters are listed. No two characters with different ids stand in one
place, so a listing has one order only, and downwards it is the other way round. -/

namespace Listing

/-- Has its place before another in a listing that is sorted upwards. -/
def SortKey.Below (sort : SortKey) (a b : Character) : Prop :=
  match sort with
  | .id => a.id < b.id
  | .name => a.name < b.name ∨ a.name = b.name ∧ a.id < b.id

def Query.Precedes (query : Query) (a b : Character) : Prop :=
  match query.direction with
  | .ascending => query.sort.Below a b
  | .descending => query.sort.Below b a

namespace SortKey

variable {sort : SortKey} {a b c : Character}

theorem Below.trans (first : sort.Below a b) (second : sort.Below b c) : sort.Below a c := by
  cases sort with
  | id => exact Int64.lt_trans first second
  | name =>
      rcases first with lower | ⟨same, lower⟩
      · rcases second with lower' | ⟨same', -⟩
        · exact .inl (String.lt_trans lower lower')
        · exact .inl (same' ▸ lower)
      · rcases second with lower' | ⟨same', lower'⟩
        · exact .inl (same ▸ lower')
        · exact .inr ⟨same.trans same', Int64.lt_trans lower lower'⟩

theorem Below.irrefl : ¬ sort.Below a a := by
  intro below
  cases sort with
  | id => exact Int64.lt_irrefl below
  | name =>
      rcases below with lower | ⟨-, lower⟩
      · exact String.lt_irrefl _ lower
      · exact Int64.lt_irrefl lower

theorem Below.asymm (below : sort.Below a b) : ¬ sort.Below b a :=
  fun above => (below.trans above).irrefl

end SortKey

namespace Query

variable {query : Query} {a b : Character}

theorem Precedes.asymm (precedes : query.Precedes a b) : ¬ query.Precedes b a := by
  obtain ⟨sort, direction, _, _⟩ := query
  cases direction with
  | ascending => exact SortKey.Below.asymm precedes
  | descending => exact SortKey.Below.asymm precedes

end Query

/-- A listing has one order only. -/
theorem eq_of_perm {query : Query} {left right : List Character}
    (leftSorted : left.Pairwise query.Precedes) (rightSorted : right.Pairwise query.Precedes)
    (perm : left.Perm right) : left = right := by
  apply List.Perm.eq_of_pairwise _ leftSorted rightSorted perm
  intro a b _ _ precedes follows
  exact absurd follows precedes.asymm

end Listing

namespace Store.Memory

open Listing

variable {sort : SortKey} {query : Query} {a b c : Character}

theorem ascends_name :
    ascends .name a b = true ↔ a.name < b.name ∨ a.name = b.name ∧ a.id ≤ b.id := by
  simp [ascends]

theorem ascends_trans (first : ascends sort a b = true) (second : ascends sort b c = true) :
    ascends sort a c = true := by
  cases sort with
  | id =>
      simp only [ascends, decide_eq_true_eq] at *
      exact Int64.le_trans first second
  | name =>
      rw [ascends_name] at *
      rcases first with lower | ⟨same, lower⟩
      · rcases second with lower' | ⟨same', -⟩
        · exact .inl (String.lt_trans lower lower')
        · exact .inl (same' ▸ lower)
      · rcases second with lower' | ⟨same', lower'⟩
        · exact .inl (same ▸ lower')
        · exact .inr ⟨same.trans same', Int64.le_trans lower lower'⟩

theorem ascends_total : (ascends sort a b || ascends sort b a) = true := by
  rw [Bool.or_eq_true]
  cases sort with
  | id =>
      simp only [ascends, decide_eq_true_eq]
      exact Int64.le_total a.id b.id
  | name =>
      rw [ascends_name, ascends_name]
      rcases lt_trichotomy a.name b.name with lower | same | upper
      · exact .inl (.inl lower)
      · apply (Int64.le_total a.id b.id).imp
        · exact fun lower => .inr ⟨same, lower⟩
        · exact fun upper => .inr ⟨same.symm, upper⟩
      · exact .inr (.inl upper)

theorem below_of_ascends (ascends : ascends sort a b = true) (apart : a.id ≠ b.id) :
    sort.Below a b := by
  have strictly (le : a.id ≤ b.id) : a.id < b.id := (Int64.lt_or_eq_of_le le).resolve_right apart
  cases sort with
  | id => exact strictly (of_decide_eq_true ascends)
  | name =>
      rw [ascends_name] at ascends
      exact ascends.imp_right fun ⟨same, le⟩ => ⟨same, strictly le⟩

theorem precedes_trans (first : precedes query a b = true) (second : precedes query b c = true) :
    precedes query a c = true := by
  obtain ⟨sort, direction, _, _⟩ := query
  cases direction with
  | ascending => exact ascends_trans first second
  | descending => exact ascends_trans second first

theorem precedes_total : (precedes query a b || precedes query b a) = true := by
  obtain ⟨sort, direction, _, _⟩ := query
  cases direction with
  | ascending => exact ascends_total
  | descending => exact ascends_total

theorem precedes_strictly (first : precedes query a b = true) (apart : a.id ≠ b.id) :
    query.Precedes a b := by
  obtain ⟨sort, direction, _, _⟩ := query
  cases direction with
  | ascending => exact below_of_ascends first apart
  | descending => exact below_of_ascends first apart.symm

theorem perm_ordered (store : Memory) (query : Query) :
    (store.ordered query).Perm store.rows.rows := List.mergeSort_perm ..

theorem length_ordered (store : Memory) (query : Query) :
    (store.ordered query).length = store.count := (store.perm_ordered query).length_eq

theorem pairwise_ordered (store : Memory) (query : Query) :
    (store.ordered query).Pairwise query.Precedes := by
  have apart : (store.ordered query).Pairwise fun a b => a.id ≠ b.id := by
    rw [(store.perm_ordered query).pairwise_iff Ne.symm]
    exact store.rows.ascending.imp Int64.ne_of_lt
  have sorted : (store.ordered query).Pairwise fun a b => precedes query a b = true := by
    unfold ordered
    apply List.pairwise_mergeSort
    · exact fun _ _ _ => precedes_trans
    · exact fun _ _ => precedes_total
  apply (sorted.and apart).imp
  rintro a b ⟨first, apart⟩
  exact precedes_strictly first apart

/-- A listing is turned around with its order. -/
theorem ordered_reverse (store : Memory) {up down : Query}
    (opposite : ∀ a b, down.Precedes a b ↔ up.Precedes b a) :
    store.ordered down = (store.ordered up).reverse := by
  apply eq_of_perm (store.pairwise_ordered down)
  · rw [List.pairwise_reverse]
    exact (store.pairwise_ordered up).imp (opposite _ _).mpr
  · have perm := (store.perm_ordered up).symm
    exact (store.perm_ordered down).trans (perm.trans (List.reverse_perm _).symm)

end Store.Memory

end Roster
