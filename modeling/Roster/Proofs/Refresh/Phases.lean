import Roster.Proofs.Refresh.Answers
import Roster.Refresh.Tenure

namespace Roster.Refresh

/-! What a coordinator shows. Its phase and its flag tell where the call stands that it made last. If
that call was stopped, the flag is taken back but the phase stays. -/

variable {L : Type}

def Cycle.phase : Cycle L → Phase
  | acquiring _ => .acquiring
  | counting _ => .running
  | walking .. => .running
  | fetching .. => .running
  | pausing .. => .running
  | storing .. => .running
  | releasing .. => .releasing

namespace Standing

def isStopped : Standing L → Bool
  | stopped _ => true
  | _ => false

def phase : Standing L → Phase
  | fresh => .idle
  | running cycle => cycle.phase
  | returned outcome => outcome.phaseAfter
  | stopped cycle => cycle.phase

/-- Whether the work under the lock is going on. -/
def isAtWork : Standing L → Bool
  | running cycle => decide (cycle.phase = .running)
  | _ => false

end Standing

structure Shows (replica : Replica) (standing : Standing L) : Prop where
  phase_eq : replica.phase = standing.phase
  flag_eq : replica.freshness.inProgress = standing.isAtWork

namespace Cycle

variable {replica : Replica} {lease : L} {gathered : Gathered} {walk : Source.Walk}

theorem shows_finish (rests : replica.freshness.inProgress = false) (outcome : Outcome) :
    Shows (finish (L := L) replica outcome).1 (.ofStep (finish (L := L) replica outcome).2) :=
  ⟨rfl, rests⟩

theorem shows_release (replica : Replica) (lease : L) (outcome : Outcome) :
    Shows (release replica lease outcome).1 (.ofStep (release replica lease outcome).2) :=
  ⟨rfl, rfl⟩

theorem shows_onLock (rests : replica.freshness.inProgress = false) (mode : Mode)
    (answer : Except StoreError (Option L)) :
    Shows (onLock replica mode answer).1 (.ofStep (onLock replica mode answer).2) := by
  unfold onLock
  split
  · exact shows_finish rests _
  · exact shows_finish rests _
  · cases mode <;> exact ⟨rfl, rfl⟩

section AtWork

variable (phase : replica.phase = .running) (flag : replica.freshness.inProgress = true)

include phase flag

theorem shows_onCount (answer : Except StoreError Nat) :
    Shows (onCount replica lease answer).1 (.ofStep (onCount replica lease answer).2) := by
  unfold onCount
  split
  · apply shows_release
  · split
    · apply shows_release
    · exact ⟨phase, flag⟩

theorem shows_cutShort (error : SourceError) :
    Shows (cutShort replica lease gathered error).1
      (.ofStep (cutShort replica lease gathered error).2) := by
  unfold cutShort
  split
  · apply shows_release
  · exact ⟨phase, flag⟩

theorem shows_proceed (next : Source.Client × Source.Fetch.Next) :
    Shows (proceed replica lease gathered walk next).1
      (.ofStep (proceed replica lease gathered walk next).2) := by
  unfold proceed
  split
  · exact ⟨phase, flag⟩
  · exact ⟨phase, flag⟩
  · apply shows_cutShort
    · exact phase
    · exact flag
  · exact ⟨phase, flag⟩

theorem shows_onWalk (now : Instant) :
    Shows (onWalk replica lease gathered walk now).1
      (.ofStep (onWalk replica lease gathered walk now).2) := by
  unfold onWalk
  split
  · exact ⟨phase, flag⟩
  · exact shows_proceed phase flag _

end AtWork

theorem shows_onUpsert (replica : Replica) (lease : L) (gathered : Gathered) (cutShort : Bool)
    (answer : Except StoreError Nat) (time : Timestamp) :
    Shows (onUpsert replica lease gathered cutShort answer time).1
      (.ofStep (onUpsert replica lease gathered cutShort answer time).2) := by
  cases answer <;> apply shows_release

theorem shows_take? {cycle : Cycle L} {answer : Answer L} {result : Replica × Step L}
    (shows : Shows replica (.running cycle)) (takes : cycle.take? replica answer = some result) :
    Shows result.1 (.ofStep result.2) := by
  obtain ⟨phase, flag⟩ := shows
  unfold take? at takes
  split at takes
  · cases takes
    exact shows_onLock flag _ _
  · cases takes
    exact shows_onCount phase flag _
  · cases takes
    exact shows_onWalk phase flag _
  · cases takes
    exact shows_proceed phase flag _
  · cases takes
    exact shows_proceed phase flag _
  · cases takes
    apply shows_onUpsert
  · cases takes
    exact shows_finish flag _
  · cases takes

theorem shows_cancel {cycle : Cycle L} (shows : Shows replica (.running cycle)) :
    Shows (cycle.cancel replica) (.stopped cycle) := by
  obtain ⟨phase, flag⟩ := shows
  cases cycle with
  | acquiring | releasing => exact ⟨phase, flag⟩
  | _ => exact ⟨phase, rfl⟩

end Cycle

namespace Tenure

variable {tenure : Tenure L}

theorem shows_step (shows : Shows tenure.replica tenure.standing) (event : Event L) :
    Shows (tenure.step event).replica (tenure.step event).standing := by
  cases event with
  | meanwhile => exact ⟨shows.phase_eq, shows.flag_eq⟩
  | call mode =>
      rw [step]
      split
      · exact shows
      · rename_i rests
        refine ⟨rfl, shows.flag_eq.trans ?_⟩
        cases stands : tenure.standing with
        | running => simp [stands, Standing.isAlive] at rests
        | _ => rfl
  | answer answer =>
      rw [step]
      split
      · rename_i cycle runs
        rw [runs] at shows
        split
        · exact Cycle.shows_take? shows ‹_›
        · rw [runs]
          exact shows
      · exact shows
  | stop =>
      rw [step]
      split
      · rename_i cycle runs
        rw [runs] at shows
        exact Cycle.shows_cancel shows
      · exact shows

theorem shows_run (shows : Shows tenure.replica tenure.standing) (events : List (Event L)) :
    Shows (tenure.run events).replica (tenure.run events).standing := by
  induction events generalizing tenure with
  | nil => exact shows
  | cons event rest ih => exact ih (shows_step shows event)

/-- Whatever calls were made before and however they ended: unless the last one was stopped, the phase
is that of a running cycle if and only if the flag is set, and it is that of one at rest or of a
failure if no call goes on. This is so wherever a call waits, and between calls. Phase and flag are two
places that a call sets one after the other, so somebody who runs at the same time may see one set and
the other not yet. -/
theorem run_phases (client : Source.Client) (pages : PageCache) (ttl : Span)
    (policy : PartialPolicy) (events : List (Event L))
    (unstopped : ((start client pages ttl policy).run events).standing.isStopped = false) :
    let tenure := (start client pages ttl policy).run events
    (tenure.replica.phase = .running ↔ tenure.replica.freshness.inProgress = true) ∧
      (tenure.standing.isAlive = false →
        tenure.replica.phase = .idle ∨ tenure.replica.phase = .failed) := by
  intro tenure
  obtain ⟨phase, flag⟩ : Shows tenure.replica tenure.standing := shows_run ⟨rfl, rfl⟩ events
  have unstopped' : tenure.standing.isStopped = false := unstopped
  rw [phase, flag]
  cases stands : tenure.standing with
  | fresh => exact ⟨iff_of_false (by simp [Standing.phase]) Bool.false_ne_true, fun _ => .inl rfl⟩
  | running cycle => exact ⟨decide_eq_true_iff.symm, fun dead => by cases dead⟩
  | returned outcome => cases outcome <;> simp [Standing.phase, Standing.isAtWork, Outcome.phaseAfter]
  | stopped cycle => simp [stands, Standing.isStopped] at unstopped'

def fresh : Tenure Unit :=
  start (.new 1 .zero {}) (.new "page" 1 .zero) .zero .proceed

theorem run_phases_resumed :
    let tenure := fresh.run [.call .seed, .answer (.lock (.ok (some ()))), .stop, .call .refresh,
      .answer (.lock (.ok (some ())))]
    tenure.standing.isStopped = false ∧ tenure.replica.phase = .running ∧
      (tenure.replica.phase = .running ↔ tenure.replica.freshness.inProgress = true) := by
  intro tenure
  have unstopped : tenure.standing.isStopped = false := rfl
  exact ⟨unstopped, rfl, (run_phases _ _ _ _ _ unstopped).1⟩

/-- A call that is stopped leaves its phase behind, be it amid its work or before it. -/
theorem run_phases_stopped :
    let amid := fresh.run [.call .refresh, .answer (.lock (.ok (some ()))), .stop]
    let early := fresh.run [.call .refresh, .stop]
    (amid.standing.isAlive = false ∧ amid.replica.phase = .running ∧
      amid.replica.freshness.inProgress = false) ∧
    early.standing.isAlive = false ∧ early.replica.phase = .acquiring :=
  ⟨⟨rfl, rfl, rfl⟩, rfl, rfl⟩

end Tenure

end Roster.Refresh
