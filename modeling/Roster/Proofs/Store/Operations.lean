import Roster.Proofs.Character.Batch
import Roster.Proofs.Listing.Order
import Roster.Store.Operation

namespace Roster.Store

/-! What a store is asked for, and what the answers have to be: the store is the map that has under
each id the last character written under it. -/

/-- How many characters a store holds after these have been written. -/
def distinctIds (characters : List Character) : Nat :=
  (characters.map Character.id).toFinset.card

theorem distinctIds_le_append (before later : List Character) :
    distinctIds before ≤ distinctIds (before ++ later) := by
  apply Finset.card_le_card
  intro id found
  rw [List.map_append, List.toFinset_append]
  exact Finset.mem_union_left _ found

namespace Operation

def writes : Operation → List Character
  | upsert characters => characters
  | query _ => []
  | count => []

/-- The answer to an operation on a store to which these characters have been written. -/
def Meets (written : List Character) : Operation → Response → Prop
  | upsert characters, .written ids => ids = distinctIds characters
  | query asked, .slice slice =>
    slice.total = distinctIds written ∧ slice.outOfRange = asked.isOutOfRange slice.total ∧
      ∃ listing : List Character, listing.Pairwise asked.Precedes ∧
        (∀ character, character ∈ listing ↔
          Batch.lastOf character.id written = some character) ∧
        slice.records = (listing.drop asked.offset).take asked.size.toNat
  | count, .counted rows => rows = distinctIds written
  | _, _ => False

end Operation

namespace Memory

/-- After an upsert a store holds the last of the characters written under each id, and under all
other ids what it held before. -/
theorem get?_upsert (store : Memory) (characters : List Character) (id : Int64) :
    (store.upsert characters).1.get? id = (Batch.lastOf id characters).or (store.get? id) := by
  rw [get?, upsert, Batch.get?_insertAll, Batch.lastOf_rows, Batch.get?_ofList]
  rfl

/-- Holds what is left of the characters that have been written. -/
def Holds (store : Memory) (written : List Character) : Prop :=
  ∀ id, store.get? id = Batch.lastOf id written

variable {store : Memory} {written : List Character}

theorem holds_empty : ({} : Memory).Holds [] := fun _ => rfl

theorem Holds.count_eq (holds : store.Holds written) : store.count = distinctIds written :=
  Batch.size_eq_card holds

theorem Holds.respond (holds : store.Holds written) (operation : Operation) :
    (store.respond operation).1.Holds (written ++ operation.writes) ∧
      operation.Meets written (store.respond operation).2 := by
  cases operation with
  | upsert characters =>
      constructor
      · intro id
        rw [Operation.writes, Batch.lastOf_append, ← holds id]
        exact store.get?_upsert characters id
      · exact Batch.size_ofList characters
  | query query =>
      rw [Operation.writes, List.append_nil]
      have sorted := store.pairwise_ordered query
      refine ⟨holds, holds.count_eq, rfl, store.ordered query, sorted, ?_, rfl⟩
      intro character
      rw [(store.perm_ordered query).mem_iff, Batch.mem_rows, ← holds]
      rfl
  | count =>
      rw [Operation.writes, List.append_nil]
      exact ⟨holds, holds.count_eq⟩

/-- What a store answers in turn, and what it holds in the end. -/
theorem Holds.serve (holds : store.Holds written) (operations : List Operation) :
    (store.serve operations).1.Holds (written ++ operations.flatMap Operation.writes) ∧
      (store.serve operations).2.length = operations.length ∧
      ∀ (place : Nat) (operation : Operation) (response : Response),
        operations[place]? = some operation →
        (store.serve operations).2[place]? = some response →
        operation.Meets (written ++ (operations.take place).flatMap Operation.writes) response := by
  induction operations generalizing store written with
  | nil => simpa [Memory.serve] using holds
  | cons operation rest ih =>
      obtain ⟨holds', meets⟩ := holds.respond operation
      obtain ⟨last, length, all⟩ := ih holds'
      refine ⟨?_, ?_, ?_⟩
      · rw [List.append_assoc] at last
        exact last
      · exact congrArg Nat.succ length
      · intro place asked response found given
        cases place with
        | zero =>
            cases found
            cases given
            change operation.Meets (written ++ []) (store.respond operation).2
            rw [List.append_nil]
            exact meets
        | succ place =>
            have later := all place asked response found given
            rw [List.append_assoc] at later
            exact later

end Memory

end Roster.Store
