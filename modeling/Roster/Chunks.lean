namespace Roster

/-! Lists cut into pieces of equal length, of which the last may be shorter. -/

/-- Pieces of `size` items; pieces of size zero are taken to have one. -/
def chunks {α : Type} (size : Nat) (items : List α) : List (List α) :=
  match items with
  | [] => []
  | item :: rest => (item :: rest.take (size - 1)) :: chunks size (rest.drop (size - 1))
termination_by items.length
decreasing_by
  simp only [List.length_drop, List.length_cons]
  omega

@[simp] theorem chunks_nil {α : Type} (size : Nat) : chunks size ([] : List α) = [] := by
  rw [chunks]

theorem chunks_cons {α : Type} (size : Nat) (item : α) (rest : List α) :
    chunks size (item :: rest) =
      (item :: rest.take (size - 1)) :: chunks size (rest.drop (size - 1)) := by
  rw [chunks]

/-- Nothing is lost or reordered. -/
@[simp] theorem flatten_chunks {α : Type} (size : Nat) (items : List α) :
    (chunks size items).flatten = items := by
  fun_induction chunks size items with
  | case1 => rfl
  | case2 item rest ih => simp [ih]

theorem length_of_mem_chunks {α : Type} {size : Nat} (positive : 0 < size) {items piece : List α}
    (member : piece ∈ chunks size items) : 0 < piece.length ∧ piece.length ≤ size := by
  fun_induction chunks size items with
  | case1 => cases member
  | case2 item rest ih =>
      rcases List.mem_cons.mp member with rfl | later
      · simp only [List.length_cons, List.length_take]
        omega
      · exact ih later

/-- Only the last piece may be shorter. -/
theorem length_of_mem_dropLast_chunks {α : Type} {size : Nat} (positive : 0 < size)
    {items piece : List α} (member : piece ∈ (chunks size items).dropLast) :
    piece.length = size := by
  fun_induction chunks size items with
  | case1 => cases member
  | case2 item rest ih =>
      cases others : rest.drop (size - 1) with
      | nil =>
          rw [others, chunks_nil] at member
          cases member
      | cons next more =>
          have length := congrArg List.length others
          rw [List.length_drop, List.length_cons] at length
          have several : chunks size (rest.drop (size - 1)) ≠ [] := by
            rw [others, chunks_cons]
            exact List.cons_ne_nil _ _
          rw [List.dropLast_cons_of_ne_nil several] at member
          rcases List.mem_cons.mp member with rfl | later
          · rw [List.length_cons, List.length_take]
            omega
          · exact ih later

end Roster
