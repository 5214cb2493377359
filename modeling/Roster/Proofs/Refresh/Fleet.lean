import Mathlib.Logic.Function.Basic
import Roster.Proofs.Refresh.AllOrNothing
import Roster.Refresh.Fleet

namespace Roster.Refresh

/-! What a step of one coordinator does among the others. -/

namespace Stage

theorem asks_of_isOver {stage : Stage} (finished : stage.isOver) : stage.asks = [] := by
  cases stage with
  | running => cases finished
  | ended | stopped => rfl

theorem lease?_of_isOver {stage : Stage} (finished : stage.isOver) : stage.lease? = none := by
  cases stage with
  | running => cases finished
  | ended | stopped => rfl

end Stage

namespace Errand

/-- Is between taking its lock and giving it up. -/
def Holds (errand : Errand) : Prop := errand.stage.lease?.isSome

end Errand

namespace Fleet

theorem run_append (fleet : Fleet) (events later : List Event) :
    fleet.run (events ++ later) = (fleet.run events).run later :=
  List.foldl_append

end Fleet

/-! What a step of a cycle does to its lease and to the locks. -/

namespace Cycle

theorem Works.lease? {L : Type} {lease : L} {cycle : Cycle L} (works : cycle.Works lease) :
    cycle.lease? = some lease := by
  cases cycle with
  | acquiring | releasing => exact works.elim
  | _ => exact works

end Cycle

namespace Attempt

/-- A step takes the lock, or gives it up, or has nothing to do with it. After it nobody asks for the
lock any more. -/
inductive Passed (attempt : Attempt) : Attempt → Prop
  | kept {after : Attempt} (same : after.stage.lease? = attempt.stage.lease?)
      (locks : after.store.memory.locks = attempt.store.memory.locks)
      (onward : ∀ mode, after.stage ≠ .running (.acquiring mode)) : Passed attempt after
  | took {after : Attempt} {mode : Mode} {lease : Lease}
      (asks : attempt.stage = .running (.acquiring mode)) (own : lease.key = mode.lock)
      (held : LockTable.Held attempt.store.memory.locks lease after.store.memory.locks)
      (holds : after.stage.lease? = some lease) : Passed attempt after
  | gaveUp {after : Attempt} {lease : Lease} (held : attempt.stage.lease? = some lease)
      (locks : after.store.memory.locks = attempt.store.memory.locks.free lease)
      (ended : after.stage.isOver) : Passed attempt after

variable {attempt : Attempt} {cycle : Cycle Lease}

theorem passed_abandon (runs : attempt.stage = .running cycle) :
    attempt.Passed (attempt.abandon cycle) := by
  rcases cycle.lease_cases with ⟨mode, rfl⟩ | ⟨lease, outcome, rfl⟩ | ⟨lease, works⟩
  · exact .kept (by rw [runs]; rfl) rfl nofun
  · exact .gaveUp (by rw [runs]; rfl) rfl rfl
  · refine .gaveUp (by rw [runs]; exact works.lease?) ?_ rfl
    rw [abandon, works.lease?]
    rfl

theorem passed_onLock (reply : Reply) {mode : Mode}
    (runs : attempt.stage = .running (.acquiring mode)) :
    attempt.Passed (attempt.advance reply (.acquiring mode)) := by
  have locking := attempt.store.locking_tryLock mode.lock
  change attempt.Passed (take (attempt.store.tryLock mode.lock).1
    (Cycle.onLock attempt.replica mode (attempt.store.tryLock mode.lock).2))
  generalize attempt.store.tryLock mode.lock = result at locking
  cases locking with
  | failed | refused => exact .kept (by rw [runs]; rfl) rfl nofun
  | taken _ own held => cases mode <;> exact .took runs own held rfl

theorem passed_advance (reply : Reply) (runs : attempt.stage = .running cycle) :
    attempt.Passed (attempt.advance reply cycle) := by
  rcases cycle.lease_cases with ⟨mode, rfl⟩ | ⟨lease, outcome, rfl⟩ | ⟨lease, works⟩
  · exact passed_onLock reply runs
  · exact .gaveUp (by rw [runs]; rfl) rfl rfl
  · have holds : attempt.stage.lease? = some lease := by rw [runs]; exact works.lease?
    have advanced := attempt.advanced reply works
    generalize attempt.advance reply cycle = after at advanced
    cases advanced with
    | crashed => exact passed_abandon runs
    | @ingested store gathered cutShort _ memory =>
        have locks : store.memory.locks = attempt.store.memory.locks := by
          rw [memory]
          rfl
        exact .kept holds.symm locks nofun
    | went memory went =>
        have locks := congrArg Store.Memory.locks memory
        cases went with
        | out => exact .kept holds.symm locks nofun
        | on works' =>
            refine .kept (works'.lease?.trans holds.symm) locks fun mode asks => ?_
            cases asks
            exact works'

/-- What the reply to a cycle, or its end, does to its lease and to the locks. -/
theorem passed_step {event : Event} (own : event.isForeign = false)
    (runs : attempt.stage = .running cycle) : attempt.Passed (attempt.step event) := by
  cases event with
  | meanwhile => cases own
  | reply reply =>
      rw [step_reply runs]
      exact passed_advance reply runs
  | stop =>
      rw [step_stop runs]
      exact passed_abandon runs

end Attempt

namespace Fleet

variable {fleet : Fleet} {errand : Errand} {id : Nat}

/-! A cycle that alone is served goes on as if there were no other. -/

theorem attempt_put (found : fleet.errands[id]? = some errand) (after : Attempt) :
    (fleet.put id errand after).errands[id]? = some (errand.go after.stage) ∧
      (fleet.put id errand after).attempt (errand.go after.stage) = after := by
  constructor
  · exact List.getElem?_set_self (List.getElem?_eq_some_iff.mp found).1
  · rw [attempt, put, Errand.go]
    dsimp only
    rw [Function.update_self]

theorem run_replies (found : fleet.errands[id]? = some errand) (replies : List Reply) :
    let after := (fleet.attempt errand).run (replies.map .reply)
    ∃ asked, fleet.run (replies.map (.reply id)) =
      { store := after.store
        coordinators := Function.update fleet.coordinators errand.coordinator after.replica
        errands := fleet.errands.set id { errand with stage := after.stage, asked } } := by
  induction replies generalizing fleet errand with
  | nil =>
      obtain ⟨bounded, rfl⟩ := List.getElem?_eq_some_iff.mp found
      refine ⟨fleet.errands[id].asked, ?_⟩
      change fleet = ⟨_, Function.update _ _ (fleet.coordinators _),
        fleet.errands.set id fleet.errands[id]⟩
      rw [Function.update_eq_self, List.set_getElem_self bounded]
      rfl
  | cons reply rest ih =>
      obtain ⟨found', alone⟩ := attempt_put found ((fleet.attempt errand).step (.reply reply))
      obtain ⟨asked, runs⟩ := ih found'
      rw [alone] at runs
      refine ⟨asked, ?_⟩
      change (fleet.step (.reply id reply)).run _ = _
      rw [step, act, found]
      refine runs.trans ?_
      rw [put]
      dsimp only [Errand.go]
      rw [Function.update_idem, List.set_set]
      rfl

end Fleet

end Roster.Refresh
