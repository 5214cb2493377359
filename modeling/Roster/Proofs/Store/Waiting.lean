import Mathlib.Order.Bounds.Basic
import Roster.Proofs.Source.Answering
import Roster.Settings
import Roster.Store.Wait

namespace Roster

namespace RetryPolicy

/-- Without so much as a millisecond of jitter there is nothing to draw. -/
theorem delay_of_calm {policy : RetryPolicy} (calm : policy.jitterMillis = 0) (attempt draw : Nat) :
    policy.delay attempt none draw = policy.backoff attempt := by
  have short := (policy.backoff attempt).nanos_lt
  have none_drawn : (policy.jitterOf draw).nanos = 0 := by
    rw [jitterOf, calm, Nat.mod_one]
    rfl
  apply Span.ext
  rw [delay, Span.nanos_add, none_drawn, Span.bound]
  omega

end RetryPolicy

namespace Store.Wait

/-! What comes of waiting for a store. It is pinged up to the first answer that is final, which is a
success or a failure that will not pass, unless the attempts are used up before. -/

/-- Whether an answer is a failure that may pass. -/
def isPassing : Except StoreError Unit → Bool
  | .ok _ => false
  | .error error => error.isTransient

/-- What waiting comes to if this answer to a ping is the last. -/
def conclusion (attempt : Nat) (answer : Except StoreError Unit) : Except StoreError Nat :=
  answer.map fun _ => attempt

section Course

variable {σ : Type} (policy : RetryPolicy) (draw : Nat → Nat)
  (ping : σ → Instant → σ × Except StoreError Unit) (start : Instant) (state : σ)

/-- When the ping is sent that follows so many others. -/
def sent : Nat → Instant
  | 0 => start
  | earlier + 1 =>
    ⟨(sent earlier).nanos + (policy.delay (earlier + 1) none (draw (earlier + 1))).nanos⟩

/-- The store after so many pings. -/
def pinged : Nat → σ
  | 0 => state
  | earlier + 1 => (ping (pinged earlier) (sent policy draw start earlier)).1

/-- What is answered to the ping that follows so many others. -/
def answered (earlier : Nat) : Except StoreError Unit :=
  (ping (pinged policy draw ping start state earlier) (sent policy draw start earlier)).2

end Course

variable {σ : Type} {policy : RetryPolicy} {draw : Nat → Nat}
  {ping : σ → Instant → σ × Except StoreError Unit} {start now : Instant} {state : σ}

theorem runFrom_final {attempt : Nat}
    (final : isPassing (ping state now).2 = false ∨ policy.maxAttempts ≤ attempt) :
    runFrom policy draw ping attempt state now =
      ((ping state now).1, conclusion attempt (ping state now).2, now) := by
  rw [runFrom]
  generalize ping state now = reply at final
  obtain ⟨after, error | answer⟩ := reply
  · refine if_pos (final.imp_left fun final => ?_)
    rw [show error.isTransient = false from final]
    exact Bool.false_ne_true
  · rfl

theorem runFrom_passing {attempt : Nat} (passing : isPassing (ping state now).2 = true)
    (left : attempt < policy.maxAttempts) :
    runFrom policy draw ping attempt state now =
      runFrom policy draw ping (attempt + 1) (ping state now).1
        ⟨now.nanos + (policy.delay attempt none (draw attempt)).nanos⟩ := by
  rw [runFrom]
  generalize ping state now = reply at passing
  obtain ⟨after, error | answer⟩ := reply
  · refine if_neg ?_
    rintro (lasting | spent)
    · exact lasting passing
    · exact Nat.not_lt.mpr spent left
  · cases passing

/-- From any ping on, all goes as from the first. -/
theorem runFrom_sent (earlier further : Nat)
    (passing : ∀ before, earlier ≤ before → before < earlier + further →
      isPassing (answered policy draw ping start state before) = true ∧
        before + 1 < policy.maxAttempts)
    (final : isPassing (answered policy draw ping start state (earlier + further)) = false ∨
      policy.maxAttempts ≤ earlier + further + 1) :
    runFrom policy draw ping (earlier + 1) (pinged policy draw ping start state earlier)
        (sent policy draw start earlier) =
      (pinged policy draw ping start state (earlier + further + 1),
        conclusion (earlier + further + 1)
          (answered policy draw ping start state (earlier + further)),
        sent policy draw start (earlier + further)) := by
  induction further generalizing earlier with
  | zero => exact runFrom_final final
  | succ further ih =>
      obtain ⟨here, left⟩ := passing earlier (Nat.le_refl _) (by omega)
      have shifted : earlier + (further + 1) = earlier + 1 + further := by omega
      rw [shifted] at final ⊢
      rw [runFrom_passing here left]
      exact ih (earlier + 1) (fun before late within => passing before (by omega) (by omega)) final

/-! A store whose answers are given beforehand. -/

/-- Gives the first answer to the first ping, the second to the second and so on, whenever they are
sent, and notes when that is. -/
def scripted (answers : Nat → Except StoreError Unit) (pings : List Instant) (now : Instant) :
    List Instant × Except StoreError Unit :=
  (pings ++ [now], answers (pings.length + 1))

/-- The last ping: the first whose answer is final, unless the attempts are used up before. -/
def Last (policy : RetryPolicy) (answers : Nat → Except StoreError Unit) (attempt : Nat) : Prop :=
  IsLeast (insert policy.budget {attempt | 0 < attempt ∧ isPassing (answers attempt) = false})
    attempt

variable {answers : Nat → Except StoreError Unit} {attempt : Nat}

theorem exists_last (policy : RetryPolicy) (answers : Nat → Except StoreError Unit) :
    ∃ attempt, Last policy answers attempt := by
  classical
  have some_last : ∃ attempt,
      attempt = policy.budget ∨ 0 < attempt ∧ isPassing (answers attempt) = false :=
    ⟨policy.budget, .inl rfl⟩
  exact ⟨Nat.find some_last, Nat.find_spec some_last, fun _ other => Nat.find_min' some_last other⟩

namespace Last

theorem pos (last : Last policy answers attempt) : 0 < attempt := by
  rcases last.1 with rfl | ⟨positive, -⟩
  · exact policy.budget_pos
  · exact positive

theorem le_budget (last : Last policy answers attempt) : attempt ≤ policy.budget :=
  last.2 (.inl rfl)

theorem passing (last : Last policy answers attempt) {earlier : Nat} (positive : 0 < earlier)
    (before : earlier < attempt) : isPassing (answers earlier) = true := by
  by_contra final
  exact Nat.not_le.mpr before (last.2 (.inr ⟨positive, Bool.eq_false_of_not_eq_true final⟩))

theorem left (last : Last policy answers attempt) {earlier : Nat} (positive : 0 < earlier)
    (before : earlier < attempt) : earlier < policy.maxAttempts := by
  by_contra spent
  have within := last.le_budget
  have reached := (policy.budget_le_iff positive).mpr (Nat.not_lt.mp spent)
  omega

theorem final (last : Last policy answers attempt) :
    isPassing (answers attempt) = false ∨ policy.maxAttempts ≤ attempt := by
  rcases last.1 with rfl | ⟨-, final⟩
  · exact .inr (Nat.le_max_right 1 _)
  · exact .inl final

theorem unique (last : Last policy answers attempt) {other : Nat}
    (last' : Last policy answers other) : attempt = other :=
  Nat.le_antisymm (last.2 last'.1) (last'.2 last.1)

/-- The last ping is known by what is answered to it and before. -/
theorem of_passing (positive : 0 < attempt) (within : attempt ≤ policy.budget)
    (final : attempt = policy.budget ∨ isPassing (answers attempt) = false)
    (passing : ∀ earlier, 0 < earlier → earlier < attempt → isPassing (answers earlier) = true) :
    Last policy answers attempt := by
  refine ⟨final.imp_right fun final => ⟨positive, final⟩, ?_⟩
  rintro other (rfl | ⟨positive', final'⟩)
  · exact within
  · by_contra before
    rw [passing other positive' (Nat.not_le.mp before)] at final'
    cases final'

end Last

theorem pinged_scripted (policy : RetryPolicy) (draw : Nat → Nat)
    (answers : Nat → Except StoreError Unit) (start : Instant) (earlier : Nat) :
    pinged policy draw (scripted answers) start [] earlier =
      (List.range earlier).map (sent policy draw start) := by
  induction earlier with
  | zero => rfl
  | succ earlier ih => rw [pinged, ih, List.range_succ, List.map_append]; rfl

theorem answered_scripted (policy : RetryPolicy) (draw : Nat → Nat)
    (answers : Nat → Except StoreError Unit) (start : Instant) (earlier : Nat) :
    answered policy draw (scripted answers) start [] earlier = answers (earlier + 1) := by
  rw [answered, pinged_scripted, scripted]
  simp

theorem run_scripted (last : Last policy answers attempt) (draw : Nat → Nat) (start : Instant) :
    run policy (scripted answers) [] start draw =
      ((List.range attempt).map (sent policy draw start), conclusion attempt (answers attempt),
        sent policy draw start (attempt - 1)) := by
  obtain ⟨earlier, rfl⟩ := Nat.exists_eq_add_one.mpr last.pos
  have goes :=
    @runFrom_sent (List Instant) policy draw (scripted answers) start [] 0 earlier
  simp only [Nat.zero_add, answered_scripted, pinged_scripted] at goes
  refine goes (fun before _ within => ?_) last.final
  exact ⟨last.passing before.succ_pos (by omega), last.left before.succ_pos (by omega)⟩

/-- What has come of waiting for a store that gives these answers. -/
structure Awaited (policy : RetryPolicy) (answers : Nat → Except StoreError Unit)
    (start : Instant) (pings : List Instant) (result : Except StoreError Nat)
    (finished : Instant) : Prop where
  /-- The result counts the pings up to the first success, if that comes in time and after none but
  failures that may pass. -/
  ok_iff : ∀ attempt, result = .ok attempt ↔
    0 < attempt ∧ attempt ≤ max 1 policy.maxAttempts ∧ answers attempt = .ok () ∧
      ∀ earlier, 0 < earlier → earlier < attempt → ∃ error,
        answers earlier = .error error ∧ error.isTransient = true
  /-- Or else it is the first failure that will not pass, or that of the last attempt there is. -/
  error_iff : ∀ error, result = .error error ↔ ∃ attempt,
    0 < attempt ∧ attempt ≤ max 1 policy.maxAttempts ∧ answers attempt = .error error ∧
      (error.isTransient = false ∨ attempt = max 1 policy.maxAttempts) ∧
      ∀ earlier, 0 < earlier → earlier < attempt → ∃ error,
        answers earlier = .error error ∧ error.isTransient = true
  /-- The last ping is the one whose answer is the result. -/
  result_eq : result = (answers pings.length).map fun _ => pings.length
  first : pings.head? = some start
  /-- Between two pings lies the backoff. -/
  next : ∀ attempt earlier later, pings[attempt]? = some earlier →
    pings[attempt + 1]? = some later →
    later.nanos = earlier.nanos + (policy.backoff (attempt + 1)).nanos
  /-- After the last ping there is no wait. -/
  finished_eq : pings.getLast? = some finished

theorem isPassing_iff {answer : Except StoreError Unit} :
    isPassing answer = true ↔ ∃ error, answer = .error error ∧ error.isTransient = true := by
  cases answer <;> simp [isPassing]

theorem Last.awaited (last : Last policy answers attempt) (calm : policy.jitterMillis = 0)
    (draw : Nat → Nat) (start : Instant) :
    Awaited policy answers start ((List.range attempt).map (sent policy draw start))
      (conclusion attempt (answers attempt)) (sent policy draw start (attempt - 1)) where
  ok_iff other := by
    constructor
    · intro same
      cases answer : answers attempt with
      | error error => rw [answer] at same; cases same
      | ok =>
          rw [answer] at same
          cases same
          exact ⟨last.pos, last.le_budget, answer, fun _ positive before =>
            isPassing_iff.mp (last.passing positive before)⟩
    · rintro ⟨positive, within, success, passing⟩
      have final : isPassing (answers other) = false := by rw [success]; rfl
      have last' : Last policy answers other := .of_passing positive within (.inr final)
        fun earlier positive before => isPassing_iff.mpr (passing earlier positive before)
      rw [last.unique last', success]
      rfl
  error_iff error := by
    constructor
    · intro same
      cases answer : answers attempt with
      | ok => rw [answer] at same; cases same
      | error error =>
          rw [answer] at same
          cases same
          refine ⟨attempt, last.pos, last.le_budget, answer, ?_, fun _ positive before =>
            isPassing_iff.mp (last.passing positive before)⟩
          rcases last.1 with budget | ⟨-, final⟩
          · exact .inr budget
          · rw [answer] at final
            exact .inl final
    · rintro ⟨other, positive, within, failure, final, passing⟩
      have last' : Last policy answers other := by
        refine .of_passing positive within ?_
          fun earlier positive before => isPassing_iff.mpr (passing earlier positive before)
        rcases final with lasting | spent
        · rw [failure]
          exact .inr lasting
        · exact .inl spent
      rw [last.unique last', failure]
      rfl
  result_eq := by rw [List.length_map, List.length_range]; rfl
  first := by
    obtain ⟨earlier, rfl⟩ := Nat.exists_eq_add_one.mpr last.pos
    rw [List.range_succ_eq_map]
    rfl
  next place earlier later found found' := by
    have here : sent policy draw start place = earlier := by grind
    have there : sent policy draw start (place + 1) = later := by grind
    rw [← here, ← there, sent, RetryPolicy.delay_of_calm calm]
  finished_eq := by
    obtain ⟨earlier, rfl⟩ := Nat.exists_eq_add_one.mpr last.pos
    rw [List.range_succ, List.map_append]
    simp

/-- Waiting for a store ends, whatever the store answers. By a policy without jitter it pings up to
the first success or the first failure that will not pass, once at least and as often as it may at
most, and sleeps for exactly the backoff between two pings. -/
theorem run_awaits (policy : RetryPolicy) (calm : policy.jitterMillis = 0) (draw : Nat → Nat)
    (answers : Nat → Except StoreError Unit) (start : Instant) :
    ∃ pings result finished,
      run policy (scripted answers) [] start draw = (pings, result, finished) ∧
        Awaited policy answers start pings result finished := by
  obtain ⟨attempt, last⟩ := exists_last policy answers
  exact ⟨_, _, _, run_scripted last draw start, last.awaited calm draw start⟩

/-- Is up at the third ping. -/
def recovering : Nat → Except StoreError Unit
  | 1 => .error (.transient "ping" "connection refused")
  | 2 => .error (.transient "ping" "connection refused")
  | _ => .ok ()

/-- With the settings that are there by default the pings are sent at 0 s, 0.5 s and 1.5 s. With no
attempt allowed there is one all the same. -/
theorem run_awaits_recovering :
    let policy := ({} : Settings.Database).wait
    let hasty : RetryPolicy := { policy with maxAttempts := 0 }
    let refused : StoreError := .transient "ping" "connection refused"
    policy.jitterMillis = 0 ∧ hasty.jitterMillis = 0 ∧
      Awaited policy recovering ⟨0⟩ [⟨0⟩, ⟨500000000⟩, ⟨1500000000⟩] (.ok 3) ⟨1500000000⟩ ∧
      Awaited hasty recovering ⟨0⟩ [⟨0⟩] (.error refused) ⟨0⟩ := by
  intro policy hasty refused
  have calm : policy.jitterMillis = 0 := by decide
  have calm' : hasty.jitterMillis = 0 := by decide
  have last : Last policy recovering 3 := by
    refine .of_passing (by decide) (by decide) (.inr rfl) fun earlier positive before => ?_
    have first_or_second : earlier = 1 ∨ earlier = 2 := by omega
    rcases first_or_second with rfl | rfl <;> rfl
  have last' : Last hasty recovering 1 :=
    .of_passing (by decide) (by decide) (.inl rfl) fun earlier positive before => by omega
  have times : (List.range 3).map (sent policy (fun _ => 0) ⟨0⟩) =
      [⟨0⟩, ⟨500000000⟩, ⟨1500000000⟩] := by decide
  have third : run policy (scripted recovering) [] ⟨0⟩ =
      ([⟨0⟩, ⟨500000000⟩, ⟨1500000000⟩], .ok 3, ⟨1500000000⟩) := by
    rw [run_scripted last, times]
    decide
  have once : run hasty (scripted recovering) [] ⟨0⟩ = ([⟨0⟩], .error refused, ⟨0⟩) :=
    run_scripted last' _ ⟨0⟩
  obtain ⟨pings, result, finished, ran, awaited⟩ :=
    run_awaits policy calm (fun _ => 0) recovering ⟨0⟩
  obtain ⟨pings', result', finished', ran', awaited'⟩ :=
    run_awaits hasty calm' (fun _ => 0) recovering ⟨0⟩
  cases third.symm.trans ran
  cases once.symm.trans ran'
  exact ⟨calm, calm', awaited, awaited'⟩

end Store.Wait

end Roster
