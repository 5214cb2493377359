import Roster.Refresh.Cycle

namespace Roster.Refresh.Cycle

/-! What the steps of a cycle do to the page cache, whatever it is answered. -/

variable {L : Type}

theorem pages_onLock (replica : Replica) (mode : Mode) (answer : Except StoreError (Option L)) :
    (onLock replica mode answer).1.pages = replica.pages := by
  unfold onLock
  split <;> rfl

theorem pages_onCount (replica : Replica) (lease : L) (answer : Except StoreError Nat) :
    (onCount replica lease answer).1.pages = replica.pages := by
  unfold onCount
  split
  · rfl
  · split <;> rfl

theorem pages_cutShort (replica : Replica) (lease : L) (gathered : Gathered)
    (error : SourceError) : (cutShort replica lease gathered error).1.pages = replica.pages := by
  unfold cutShort
  split <;> rfl

theorem pages_proceed (replica : Replica) (lease : L) (gathered : Gathered) (walk : Source.Walk)
    (next : Source.Client × Source.Fetch.Next) :
    (proceed replica lease gathered walk next).1.pages = replica.pages := by
  unfold proceed
  split
  · rfl
  · rfl
  · apply pages_cutShort
  · rfl

theorem pages_onWalk (replica : Replica) (lease : L) (gathered : Gathered) (walk : Source.Walk)
    (now : Instant) : (onWalk replica lease gathered walk now).1.pages = replica.pages := by
  unfold onWalk
  split
  · rfl
  · apply pages_proceed

theorem pages_onUpsert (replica : Replica) (lease : L) (gathered : Gathered) (cutShort : Bool)
    (answer : Except StoreError Nat) (time : Timestamp) :
    (onUpsert replica lease gathered cutShort answer time).1.pages =
      if (Answer.upsert (L := L) answer time).isWritten then replica.pages.clear
      else replica.pages := by
  cases answer <;> rfl

/-- The page cache is emptied when the store has written, and in no other step. -/
theorem pages_take? {replica : Replica} {cycle : Cycle L} {answer : Answer L}
    {result : Replica × Step L} (takes : cycle.take? replica answer = some result) :
    result.1.pages = if answer.isWritten then replica.pages.clear else replica.pages := by
  unfold take? at takes
  split at takes
  · cases takes
    apply pages_onLock
  · cases takes
    apply pages_onCount
  · cases takes
    apply pages_onWalk
  · cases takes
    apply pages_proceed
  · cases takes
    apply pages_proceed
  · cases takes
    apply pages_onUpsert
  · cases takes
    rfl
  · cases takes

/-- Once the store has written, or has failed to, a cycle only gives up its lock. -/
theorem await_of_storing {replica : Replica} {lease : L} {gathered : Gathered} {cutShort : Bool}
    {answer : Answer L} {result : Replica × Step L}
    (takes : (storing lease gathered cutShort).take? replica answer = some result) :
    ∃ outcome, result.2 = .await (.releasing lease outcome) := by
  cases answer with
  | upsert answer time =>
      cases takes
      cases answer <;> exact ⟨_, rfl⟩
  | _ => cases takes

theorem storing_of_isWritten {replica : Replica} {cycle : Cycle L} {answer : Answer L}
    {result : Replica × Step L} (takes : cycle.take? replica answer = some result)
    (written : answer.isWritten) :
    ∃ lease gathered cutShort, cycle = .storing lease gathered cutShort := by
  cases answer with
  | upsert answer time =>
      cases cycle with
      | storing lease gathered cutShort => exact ⟨lease, gathered, cutShort, rfl⟩
      | _ => cases takes
  | _ => cases written

theorem ended_of_releasing {replica : Replica} {lease : L} {outcome : Outcome}
    {answer : Answer L} {result : Replica × Step L}
    (takes : (releasing lease outcome).take? replica answer = some result) :
    result.2 = .ended outcome := by
  cases answer with
  | released =>
      cases takes
      rfl
  | _ => cases takes

end Roster.Refresh.Cycle
