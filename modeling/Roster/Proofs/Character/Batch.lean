import Mathlib.Data.Finset.Card
import Mathlib.Data.Finset.Dedup
import Mathlib.Data.List.Nodup
import Roster.Character.Batch

namespace Roster.Batch

/-! What a batch holds after characters have been added: under each id the last of them, and as many
rows as there are ids. -/

def ids (batch : Batch) : List Int64 := batch.rows.map Character.id

theorem nodup_ids (batch : Batch) : batch.ids.Nodup := by
  rw [ids, List.Nodup, List.pairwise_map]
  exact batch.ascending.imp Int64.ne_of_lt

theorem mem_ids {batch : Batch} {id : Int64} : id ∈ batch.ids ↔ (batch.get? id).isSome := by
  simp [ids, get?, List.find?_isSome]

theorem mem_insertAll {batch : Batch} {characters : List Character} {row : Character}
    (member : row ∈ (batch.insertAll characters).rows) : row ∈ batch.rows ∨ row ∈ characters := by
  induction characters generalizing batch with
  | nil => exact .inl member
  | cons character rest ih =>
      rw [insertAll_cons] at member
      rcases ih member with earlier | later
      · rcases mem_insertRow earlier with rfl | old
        · exact .inr List.mem_cons_self
        · exact .inl old
      · exact .inr (List.mem_cons_of_mem character later)

/-- The last of the characters with this id. -/
def lastOf (id : Int64) (characters : List Character) : Option Character :=
  (characters.filter fun character => character.id == id).getLast?

theorem isSome_lastOf {id : Int64} {characters : List Character} :
    (lastOf id characters).isSome ↔ id ∈ characters.map Character.id := by
  simp [lastOf]

theorem get?_insertAll (batch : Batch) (characters : List Character) (id : Int64) :
    (batch.insertAll characters).get? id = (lastOf id characters).or (batch.get? id) := by
  induction characters generalizing batch with
  | nil => rfl
  | cons character rest ih =>
      rw [insertAll_cons, ih, get?_insert, lastOf, lastOf, List.filter_cons]
      by_cases same : character.id = id
      · rw [if_pos same, if_pos (beq_iff_eq.mpr same), List.getLast?_cons]
        cases (rest.filter fun character => character.id == id).getLast? <;> rfl
      · rw [if_neg same, if_neg (by simpa using same)]

theorem get?_ofList (characters : List Character) (id : Int64) :
    (ofList characters).get? id = lastOf id characters := by
  rw [ofList, get?_insertAll, get?_empty, Option.or_none]

theorem lastOf_rows (batch : Batch) (id : Int64) : lastOf id batch.rows = batch.get? id := by
  obtain ⟨rows, ascending⟩ := batch
  change lastOf id rows = rows.find? _
  induction rows with
  | nil => rfl
  | cons row rest ih =>
      obtain ⟨above, ascending'⟩ := List.pairwise_cons.mp ascending
      by_cases same : row.id = id
      · have others : rest.filter (fun row => row.id == id) = [] := by
          rw [List.filter_eq_nil_iff]
          intro other member equal
          have higher := above other member
          rw [same, beq_iff_eq.mp equal] at higher
          exact Int64.lt_irrefl higher
        rw [lastOf, List.filter_cons_of_pos (by simpa using same), others,
          List.find?_cons_of_pos (by simpa using same)]
        rfl
      · rw [lastOf, List.filter_cons_of_neg (by simpa using same),
          List.find?_cons_of_neg (by simpa using same)]
        exact ih ascending'

theorem lastOf_append (id : Int64) (earlier later : List Character) :
    lastOf id (earlier ++ later) = (lastOf id later).or (lastOf id earlier) := by
  rw [lastOf, List.filter_append, List.getLast?_append]
  rfl

theorem mem_rows {batch : Batch} {character : Character} :
    character ∈ batch.rows ↔ batch.get? character.id = some character := by
  constructor
  · intro member
    have known : (batch.get? character.id).isSome :=
      mem_ids.mp (List.mem_map_of_mem member)
    obtain ⟨other, found⟩ := Option.isSome_iff_exists.mp known
    have same : other.id = character.id := by simpa using List.find?_some found
    have listed : other ∈ batch.rows := List.mem_of_find?_eq_some found
    rw [found, List.inj_on_of_nodup_map (nodup_ids batch) listed member same]
  · intro found
    exact List.mem_of_find?_eq_some found

theorem size_eq_card {batch : Batch} {characters : List Character}
    (holds : ∀ id, batch.get? id = lastOf id characters) :
    batch.size = (characters.map Character.id).toFinset.card := by
  have same : batch.ids.toFinset = (characters.map Character.id).toFinset := by
    ext id
    rw [List.mem_toFinset, List.mem_toFinset, mem_ids, holds, isSome_lastOf]
  rw [← same, List.toFinset_card_of_nodup (nodup_ids _), ids, List.length_map]
  rfl

theorem size_ofList (characters : List Character) :
    (ofList characters).size = (characters.map Character.id).toFinset.card :=
  size_eq_card (get?_ofList characters)

theorem eq_empty_of_size {batch : Batch} (vacant : batch.size = 0) : batch = ∅ := by
  obtain ⟨rows, ascending⟩ := batch
  cases List.length_eq_zero_iff.mp vacant
  rfl

theorem rows_ofList_eq_nil {characters : List Character} :
    (ofList characters).rows = [] ↔ characters = [] := by
  have size := size_ofList characters
  rw [Batch.size] at size
  rw [← List.length_eq_zero_iff, size]
  simp

theorem size_ofList_rows (batch : Batch) : (ofList batch.rows).size = batch.size := by
  rw [size_ofList, ← ids, List.toFinset_card_of_nodup (nodup_ids batch), ids, List.length_map]
  rfl

end Roster.Batch
