import Roster.Proofs.Refresh.Outliving
import Roster.Proofs.Refresh.Shutdown

namespace Roster.Refresh

/-! The start of the worker. Its first tick is one interval away, and the clock has to be able to
hold that reading. The constraints on the settings keep the interval from being empty, but not from
being longer than the clock runs: then the worker never comes to wait for a tick. -/

namespace Worker

variable {L : Type}

/-- For an interval that is not empty, nothing but the clock decides whether the worker starts. -/
theorem start_eq {interval : Span} (nonempty : interval ≠ .zero) (now : Instant) :
    (start now interval : Option (Worker L)) =
      if now.nanos + interval.nanos < Instant.bound then
        some (.waiting ⟨⟨now.nanos + interval.nanos⟩, interval⟩)
      else none := by
  rw [start, Ticker.start, if_neg nonempty, Instant.after?]
  split <;> rfl

end Worker

namespace Post

variable {L : Type}

def worker? : Post L → Option (Worker L)
  | working worker => some worker
  | _ => none

/-- A step of a cycle neither brings a worker nor takes it away. -/
theorem isSome_worker?_after (post : Post L) (step : Cycle.Step L) :
    (post.after step).worker?.isSome = post.worker?.isSome := by
  cases post with
  | seeded => rfl
  | seeding cycle => cases step <;> rfl
  | working worker => cases worker <;> rfl

end Post

namespace Duty

variable {L : Type} {duty : Duty L}

/-- Some time may pass, but no worker comes or goes, and without one no cycle is counted. -/
structure Continues (duty after : Duty L) : Prop where
  now : duty.now.nanos ≤ after.now.nanos
  worker : after.post.worker?.isSome = duty.post.worker?.isSome
  begun : duty.post.worker? = none → after.begun = duty.begun

theorem Continues.refl (duty : Duty L) : duty.Continues duty :=
  ⟨Nat.le_refl _, rfl, fun _ => rfl⟩

theorem continues_proceed (duty : Duty L) (cycle : Cycle L) (answer : Cycle.Answer L) :
    duty.Continues (duty.proceed cycle answer) := by
  have begun := (duty.proceed_signal cycle answer).2
  rw [proceed] at begun ⊢
  split at begun
  · rename_i replica step _
    exact {
      now := Nat.le_of_eq (congrArg Instant.nanos (duty.post_note _).2.2.1.symm)
      worker := duty.post.isSome_worker?_after step
      begun := fun _ => begun }
  · exact .refl duty

/-- No event but its start decides whether there is a worker. -/
theorem continues_step (duty : Duty L) {event : Event L} (other : event ≠ .enlist) :
    duty.Continues (duty.step event) := by
  cases event with
  | pass nanos => exact ⟨Nat.le_add_right _ _, rfl, fun _ => rfl⟩
  | tell | hangUp | share => exact ⟨Nat.le_refl _, rfl, fun _ => rfl⟩
  | enlist => exact absurd rfl other
  | answer answer =>
      rw [step]
      split
      · rename_i cycle _
        obtain ⟨now, worker, begun⟩ := (duty.wait cycle.rest.nanos).continues_proceed cycle
          (answer.at (duty.wait cycle.rest.nanos).now)
        exact ⟨Nat.le_trans (Nat.le_add_right _ _) now, worker, begun⟩
      · exact .refl duty
  | react event =>
      rcases duty.react_cases event with same | ⟨ticker, waits, -, reacts⟩
      · rw [same]
        exact .refl duty
      · rw [reacts]
        refine ⟨Nat.le_refl _, by rw [waits]; rfl, fun unmanned => ?_⟩
        rw [waits] at unmanned
        cases unmanned

theorem enlist_cases (duty : Duty L) :
    duty.step .enlist = duty ∨ ∃ worker, duty.post = .seeded ∧
      duty.settings.refresh.enabled = true ∧
      Worker.start duty.now duty.settings.refresh.interval = some worker ∧
      duty.step .enlist = { duty with post := .working worker } := by
  rw [step]
  split
  · rename_i worker seeded starts
    split
    · exact .inr ⟨worker, seeded, ‹_›, starts, rfl⟩
    · exact .inl rfl
  · exact .inl rfl

theorem step_enlist {worker : Worker L} (seeded : duty.post = .seeded)
    (wanted : duty.settings.refresh.enabled = true)
    (starts : Worker.start duty.now duty.settings.refresh.interval = some worker) :
    duty.step .enlist = { duty with post := .working worker } := by
  rw [step, seeded, starts]
  exact if_pos wanted

theorem manned_step (manned : duty.post.worker?.isSome = true) (event : Event L) :
    (duty.step event).post.worker?.isSome = true := by
  by_cases starts : event = .enlist
  · subst starts
    rcases duty.enlist_cases with same | ⟨worker, -, -, -, enlisted⟩
    · rw [same, manned]
    · rw [enlisted]
      rfl
  · rw [(duty.continues_step starts).worker, manned]

theorem begun_step (unmanned : duty.post.worker? = none) (event : Event L) :
    (duty.step event).begun = duty.begun := by
  by_cases starts : event = .enlist
  · subst starts
    rcases duty.enlist_cases with same | ⟨worker, -, -, -, enlisted⟩
    · rw [same]
    · rw [enlisted]
  · exact (duty.continues_step starts).begun unmanned

/-- A worker once started is there for good, be it to say that it has stopped. -/
theorem manned_run (manned : duty.post.worker?.isSome = true) (events : List (Event L)) :
    (duty.run events).post.worker?.isSome = true := by
  induction events generalizing duty with
  | nil => exact manned
  | cons event rest ih => exact ih (manned_step manned event)

/-- Has no worker and cannot get one: its first tick would be beyond the clock. -/
structure Deserted (duty : Duty L) : Prop where
  worker : duty.post.worker? = none
  begun : duty.begun = 0
  beyond : Instant.bound ≤ duty.now.nanos + duty.settings.refresh.interval.nanos

namespace Deserted

theorem start_eq_none (deserted : duty.Deserted) :
    (Worker.start duty.now duty.settings.refresh.interval : Option (Worker L)) = none := by
  cases starts : (Worker.start duty.now duty.settings.refresh.interval : Option (Worker L)) with
  | none => rfl
  | some worker =>
      have nonempty : duty.settings.refresh.interval ≠ .zero := fun empty => by
        rw [empty] at starts
        cases starts
      rw [Worker.start_eq nonempty, if_neg (Nat.not_lt.mpr deserted.beyond)] at starts
      cases starts

theorem step_enlist (deserted : duty.Deserted) : duty.step .enlist = duty := by
  rcases duty.enlist_cases with same | ⟨worker, -, -, starts, -⟩
  · exact same
  · rw [deserted.start_eq_none] at starts
    cases starts

theorem step (deserted : duty.Deserted) (event : Event L) : (duty.step event).Deserted := by
  by_cases starts : event = .enlist
  · rw [starts, deserted.step_enlist]
    exact deserted
  · obtain ⟨now, worker, begun⟩ := duty.continues_step starts
    rw [deserted.worker] at worker
    exact {
      worker := Option.isNone_iff_eq_none.mp (Option.isSome_eq_false_iff.mp worker)
      begun := (begun deserted.worker).trans deserted.begun
      beyond := by
        rw [settings_step]
        exact Nat.le_trans deserted.beyond (Nat.add_le_add_right now _) }

theorem run (deserted : duty.Deserted) (events : List (Event L)) :
    (duty.run events).Deserted := by
  induction events generalizing duty with
  | nil => exact deserted
  | cons event rest ih => exact ih (deserted.step event)

end Deserted

/-- As long as there is no worker it has begun no cycle. -/
theorem begun_run (settings : Settings) (now : Instant) (events : List (Event L))
    (unmanned : ((start settings now).run events).post.worker? = none) :
    ((start settings now).run events).begun = 0 := by
  unfold run at unmanned ⊢
  induction events using List.reverseRecOn with
  | nil => rfl
  | append_singleton events event ih =>
      rw [List.foldl_append, List.foldl_cons, List.foldl_nil] at unmanned ⊢
      cases before : (events.foldl Duty.step (start settings now : Duty L)).post.worker? with
      | none => exact (begun_step before event).trans (ih before)
      | some worker =>
          have manned := manned_step (by rw [before]; rfl) event
          rw [unmanned] at manned
          cases manned

/-- When the store has been seen to, the worker starts if the clock can hold the reading one interval
from then: it waits for that tick, and is there from then on. Else it does not start, then or later,
and no cycle is ever begun. -/
theorem run_enlists (settings : Settings) (valid : settings.validate = .ok ()) (now : Instant)
    (before : List (Event L)) (seeded : ((start settings now).run before).post = .seeded) :
    let duty : Duty L := (start settings now).run before
    let deadline : Instant := ⟨duty.now.nanos + settings.refresh.interval.nanos⟩
    let first : Worker L := .waiting ⟨deadline, settings.refresh.interval⟩
    (deadline.nanos < Instant.bound →
      Worker.start duty.now settings.refresh.interval = some first ∧
        (settings.refresh.enabled = true → (duty.step .enlist).post = .working first ∧
          ∀ later, ((duty.step .enlist).run later).post.worker?.isSome = true)) ∧
      (Instant.bound ≤ deadline.nanos →
        (Worker.start duty.now settings.refresh.interval : Option (Worker L)) = none ∧
          ∀ later, ((duty.step .enlist).run later).post.worker? = none ∧
            ((duty.step .enlist).run later).begun = 0) := by
  intro duty deadline first
  have accepted := Settings.accepted_of_validate valid
  have same : duty.settings = settings := (tended_run settings accepted now before).1
  refine ⟨fun fits => ?_, fun beyond => ?_⟩
  · have starts : Worker.start duty.now settings.refresh.interval = some first := by
      rw [Worker.start_eq accepted.interval_pos, if_pos fits]
    refine ⟨starts, fun wanted => ?_⟩
    have enlisted : duty.step .enlist = { duty with post := .working first } :=
      step_enlist seeded (by rw [same, wanted]) (by rw [same, starts])
    rw [enlisted]
    exact ⟨rfl, manned_run rfl⟩
  · have unmanned : duty.post.worker? = none := by
      rw [seeded]
      rfl
    have deserted : duty.Deserted := ⟨unmanned, begun_run settings now before unmanned, by
      rw [same]
      exact beyond⟩
    refine ⟨same ▸ deserted.start_eq_none, fun later => ?_⟩
    rw [deserted.step_enlist]
    exact ⟨(deserted.run later).worker, (deserted.run later).begun⟩

/-- Someone else fills the store. -/
def settling : List (Event Unit) := [.answer (.lock (.ok none))]

theorem run_enlists_default :
    let duty : Duty Unit := (start {} ⟨0⟩).run settling
    let first : Worker Unit := .waiting ⟨⟨300000000000⟩, .ofSecs 300⟩
    ({} : Settings).validate = .ok () ∧ duty.post = .seeded ∧
      (duty.step .enlist).post = .working first ∧
        ∀ later, ((duty.step .enlist).run later).post.worker?.isSome = true := by
  intro duty first
  have valid : ({} : Settings).validate = .ok () := by decide
  have seeded : duty.post = .seeded := rfl
  obtain ⟨starts, -⟩ := run_enlists {} valid ⟨0⟩ settling seeded
  obtain ⟨post, stays⟩ := (starts (by decide)).2 rfl
  exact ⟨valid, seeded, post, stays⟩

/-- The longest interval that the environment can ask for. -/
def endless : Settings where
  refresh := { interval := .ofSecs 18446744073709551615 }

theorem run_enlists_endless :
    Settings.ofEnvironment
        ⟨[("PORTAL_REFRESH_INTERVAL_SECS", "18446744073709551615".toUTF8.toList)]⟩ = .ok endless ∧
      endless.validate = .ok () ∧ endless.refresh.enabled = true ∧
        (Worker.start ⟨0⟩ endless.refresh.interval : Option (Worker Unit)) = none ∧
          ((start endless ⟨0⟩).run settling).post = .seeded ∧
            (((start endless ⟨0⟩).run settling).step .enlist).post.worker? = none :=
  ⟨by decide +kernel, by decide, rfl, rfl, rfl, rfl⟩

end Duty

end Roster.Refresh
