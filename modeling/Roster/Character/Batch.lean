import Roster.Character

namespace Roster

/-! Characters gathered by id, in ascending order of their ids. One that is added under an id
already there takes its place. -/

structure Batch where
  rows : List Character
  ascending : rows.Pairwise (·.id < ·.id)
  deriving DecidableEq

namespace Batch

def empty : Batch := ⟨[], List.Pairwise.nil⟩

instance : Inhabited Batch := ⟨empty⟩

instance : EmptyCollection Batch := ⟨empty⟩

def insertRow (character : Character) : List Character → List Character
  | [] => [character]
  | row :: rest =>
    if character.id < row.id then character :: row :: rest
    else if character.id = row.id then character :: rest
    else row :: insertRow character rest

theorem mem_insertRow {x character : Character} {rows : List Character}
    (h : x ∈ insertRow character rows) : x = character ∨ x ∈ rows := by
  induction rows with
  | nil => simpa [insertRow] using h
  | cons row rest ih =>
    simp only [insertRow] at h
    split at h
    · simpa using h
    · split at h
      · rcases List.mem_cons.1 h with h | h
        · exact .inl h
        · exact .inr (List.mem_cons_of_mem _ h)
      · rcases List.mem_cons.1 h with h | h
        · exact .inr (h ▸ List.mem_cons_self)
        · rcases ih h with h | h
          · exact .inl h
          · exact .inr (List.mem_cons_of_mem _ h)

theorem lt_of_not_lt_of_ne {a b : Int64} (h : ¬ a < b) (hne : a ≠ b) : b < a := by
  have hle : b ≤ a := Int64.not_lt.1 h
  rcases Int64.lt_or_eq_of_le hle with h | h
  · exact h
  · exact absurd h.symm hne

theorem pairwise_insertRow (character : Character) {rows : List Character}
    (h : rows.Pairwise (·.id < ·.id)) :
    (insertRow character rows).Pairwise (·.id < ·.id) := by
  induction rows with
  | nil => simp [insertRow]
  | cons row rest ih =>
    have hrest := List.pairwise_cons.1 h
    simp only [insertRow]
    split
    · rename_i hlt
      refine List.pairwise_cons.2 ⟨fun x hx => ?_, h⟩
      rcases List.mem_cons.1 hx with rfl | hx
      · exact hlt
      · exact Int64.lt_trans hlt (hrest.1 x hx)
    · split
      · rename_i heq
        exact List.pairwise_cons.2 ⟨fun x hx => heq ▸ hrest.1 x hx, hrest.2⟩
      · rename_i hlt hne
        refine List.pairwise_cons.2 ⟨fun x hx => ?_, ih hrest.2⟩
        rcases mem_insertRow hx with rfl | hx
        · exact lt_of_not_lt_of_ne hlt hne
        · exact hrest.1 x hx

def insert (batch : Batch) (character : Character) : Batch :=
  ⟨insertRow character batch.rows, pairwise_insertRow character batch.ascending⟩

/-- Adds characters one after the other, so that the last of an id stays. -/
def insertAll (batch : Batch) (characters : List Character) : Batch :=
  characters.foldl insert batch

def ofList (characters : List Character) : Batch := empty.insertAll characters

def get? (batch : Batch) (id : Int64) : Option Character :=
  batch.rows.find? fun row => row.id == id

def size (batch : Batch) : Nat := batch.rows.length

@[simp] theorem rows_empty : empty.rows = [] := rfl

@[simp] theorem insertAll_nil (batch : Batch) : batch.insertAll [] = batch := rfl

@[simp] theorem insertAll_cons (batch : Batch) (character : Character)
    (characters : List Character) :
    batch.insertAll (character :: characters) = (batch.insert character).insertAll characters :=
  rfl

theorem insertAll_append (batch : Batch) (left right : List Character) :
    batch.insertAll (left ++ right) = (batch.insertAll left).insertAll right := by
  simp [insertAll]

theorem find?_insertRow (character : Character) (id : Int64) {rows : List Character}
    (h : rows.Pairwise (·.id < ·.id)) :
    (insertRow character rows).find? (fun row => row.id == id) =
      if character.id = id then some character
      else rows.find? fun row => row.id == id := by
  induction rows with
  | nil => by_cases hid : character.id = id <;> simp [insertRow, hid]
  | cons row rest ih =>
    have hrest := List.pairwise_cons.1 h
    simp only [insertRow]
    split
    · by_cases hid : character.id = id <;> simp [hid]
    · split
      · rename_i heq
        by_cases hid : character.id = id
        · simp [hid]
        · have hrow : ¬ row.id = id := fun h => hid (heq.trans h)
          simp [hid, hrow]
      · rename_i hne
        by_cases hrow : row.id = id
        · have hid : ¬ character.id = id := fun h => hne (h.trans hrow.symm)
          simp [hid, hrow]
        · simp [hrow, ih hrest.2]

/-- A look-up finds the character added last under its id. -/
@[simp] theorem get?_insert (batch : Batch) (character : Character) (id : Int64) :
    (batch.insert character).get? id =
      if character.id = id then some character else batch.get? id :=
  find?_insertRow character id batch.ascending

@[simp] theorem get?_empty (id : Int64) : empty.get? id = none := rfl

end Batch

end Roster
