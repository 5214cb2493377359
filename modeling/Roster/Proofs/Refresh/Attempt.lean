import Roster.Proofs.Source.Stream
import Roster.Refresh.Attempt

namespace Roster

namespace LockTable

/-- A lease is held on a lock that was free before, and all other locks are as before. -/
structure Held (before : LockTable) (lease : Lease) (table : LockTable) : Prop where
  live : lease.live = true
  unlocked : before.isLocked lease.key = false
  holders : table.holders = (lease.key, lease.token) :: before.holders

theorem Held.holders_free {table after : LockTable} {lease : Lease}
    (held : Held table lease after) : (after.free lease).holders = table.holders := by
  have found : after.holder? lease.key = some lease.token := by
    rw [holder?, held.holders, List.lookup_cons_self]
  have others : ∀ entry ∈ table.holders, entry.1 != lease.key := by
    intro entry member
    have unlocked := held.unlocked
    rw [isLocked, holder?, Option.isSome_eq_false_iff, Option.isNone_iff_eq_none,
      List.lookup_eq_none_iff] at unlocked
    simpa [bne, Bool.beq_comm] using unlocked entry member
  rw [free, unlock, if_pos ⟨held.live, found⟩]
  change after.holders.filter _ = _
  rw [held.holders, List.filter_cons_of_neg (by simp), List.filter_eq_self.mpr others]

end LockTable

namespace Simulation.FaultyStore

/-- What can become of taking a lock. -/
inductive Locking (store : FaultyStore) (key : LockKey) :
    FaultyStore × Except StoreError (Option Lease) → Prop
  | failed {error : StoreError} (fails : store.lockError = some error) :
      Locking store key (store, .error error)
  | refused (works : store.lockError = none) (locked : store.memory.locks.isLocked key = true) :
      Locking store key (store, .ok none)
  | taken {locks : LockTable} {lease : Lease} (works : store.lockError = none)
      (own : lease.key = key) (held : LockTable.Held store.memory.locks lease locks) :
      Locking store key ({ store with memory := { store.memory with locks } }, .ok (some lease))

theorem locking_tryLock (store : FaultyStore) (key : LockKey) :
    Locking store key (store.tryLock key) := by
  unfold tryLock
  split
  · exact .failed ‹_›
  · rename_i works
    by_cases locked : store.memory.locks.isLocked key
    · rw [LockTable.tryLock, if_pos locked]
      exact .refused works locked
    · rw [LockTable.tryLock, if_neg locked]
      exact .taken works rfl ⟨rfl, Bool.not_eq_true _ ▸ locked, rfl⟩

/-- What can become of an upsert. -/
inductive Written (store : FaultyStore) (characters : List Character) :
    FaultyStore × Option (Except StoreError Nat) → Prop
  | crashed (crashes : store.crashes = true) : Written store characters (store, none)
  | failed {after : FaultyStore} {error : StoreError} (fails : store.upsertError = some error)
      (memory : after.memory = store.memory) :
      Written store characters (after, some (.error error))
  | done {after : FaultyStore} (stands : store.crashes = false) (works : store.upsertError = none)
      (memory : after.memory = (store.memory.upsert characters).1) :
      Written store characters (after, some (.ok (store.memory.upsert characters).2))

theorem written_upsert (store : FaultyStore) (characters : List Character) :
    Written store characters (store.upsert characters) := by
  unfold upsert
  split
  · exact .crashed ‹_›
  · split
    · exact .failed ‹_› rfl
    · exact .done (Bool.not_eq_true _ ▸ ‹¬ _›) ‹_› rfl

end Simulation.FaultyStore

namespace Refresh

namespace Attempt

variable {attempt : Attempt} {cycle : Cycle Lease}

theorem step_reply (runs : attempt.stage = .running cycle) (reply : Reply) :
    attempt.step (.reply reply) = attempt.advance reply cycle := by
  rw [step, runs]

theorem step_stop (runs : attempt.stage = .running cycle) :
    attempt.step .stop = attempt.abandon cycle := by
  rw [step, runs]

/-- Whatever happens to an attempt that is over, it stays as it is but for what others do. -/
theorem step_of_over (finished : attempt.stage.isOver) (event : Event) :
    (attempt.step event).stage = attempt.stage ∧
      (event.isForeign ∨ attempt.step event = attempt) := by
  cases event with
  | meanwhile => exact ⟨rfl, .inl rfl⟩
  | reply | stop =>
      cases stands : attempt.stage with
      | running => rw [stands] at finished; cases finished
      | ended | stopped =>
          rw [step, stands]
          exact ⟨stands, .inr rfl⟩

/-- A cycle that is to fill an empty store begins its walk if it can count no rows, and otherwise
gives up its lock. -/
theorem advance_counting (attempt : Attempt) (reply : Reply) (lease : Lease) :
    ((∃ outcome, (∀ completion, outcome ≠ .completed completion) ∧
        (attempt.advance reply (.counting lease)).stage = .running (.releasing lease outcome)) ∧
      ¬ (attempt.store.queryError = none ∧ attempt.store.memory.count = 0)) ∨
    (attempt.store.queryError = none ∧ attempt.store.memory.count = 0) ∧
      attempt.advance reply (.counting lease) =
        { attempt with stage := .running (.walking lease {} {}) } := by
  have counts : attempt.advance reply (.counting lease) = take attempt.store
      (Cycle.onCount attempt.replica lease (Simulation.FaultyStore.fails attempt.store.queryError
        attempt.store.memory.count)) := rfl
  rw [counts]
  cases attempt.store.queryError with
  | some error =>
      refine .inl ⟨⟨.failed error.kind 0, ?_, rfl⟩, fun vacant => by cases vacant.1⟩
      intro completion same
      cases same
  | none =>
      have branches : Cycle.onCount attempt.replica lease
          (Simulation.FaultyStore.fails none attempt.store.memory.count) =
            if 0 < attempt.store.memory.count then Cycle.release attempt.replica lease .skipped
            else (attempt.replica, .await (.walking lease {} {})) := rfl
      rw [branches]
      by_cases occupied : 0 < attempt.store.memory.count
      · rw [if_pos occupied]
        refine .inl ⟨⟨.skipped, ?_, rfl⟩, fun vacant => Nat.ne_of_gt occupied vacant.2⟩
        intro completion same
        cases same
      · rw [if_neg occupied]
        exact .inr ⟨⟨rfl, Nat.eq_zero_of_not_pos occupied⟩, rfl⟩

end Attempt

end Refresh

end Roster
