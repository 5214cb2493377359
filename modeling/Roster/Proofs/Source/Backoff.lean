import Mathlib.Algebra.Order.Ring.Nat
import Mathlib.Tactic.Ring
import Roster.Settings

namespace Roster

/-! How the waits between attempts grow: each is twice the one before until the cap cuts it off, but
no wait is more than sixteen doublings of the first. -/

namespace RetryPolicy

/-- The wait after an attempt is the base, doubled with every attempt after the first, as far as the
cap allows; base and cap are counted in milliseconds. -/
def Doubles (policy : RetryPolicy) (base cap attempt : Nat) : Prop :=
  (policy.backoff attempt).nanos = min cap (base * 2 ^ (attempt - 1)) * 1000000

/-- Where the limit on the doublings cannot be seen. -/
def Reaches (base cap attempt : Nat) : Prop := attempt ≤ 17 ∨ base = 0 ∨ cap ≤ base * 2 ^ 16

theorem nanos_backoff (attempts : Nat) (base cap : UInt64) (jitter : Span) (attempt : Nat) :
    (backoff ⟨attempts, .ofMillis base, .ofMillis cap, jitter⟩ attempt).nanos =
      min cap.toNat (base.toNat * 2 ^ min (attempt - 1) 16) * 1000000 := by
  have short := (Span.ofMillis cap).nanos_lt
  have regrouped : base.toNat * 1000000 * 2 ^ min (attempt - 1) 16 =
      base.toNat * 2 ^ min (attempt - 1) 16 * 1000000 := Nat.mul_right_comm _ _ _
  simp only [Span.nanos_ofMillis] at short
  simp only [backoff, Span.nanos_min, Span.nanos_scale, Span.nanos_ofMillis, Nat.one_shiftLeft,
    Span.bound, regrouped]
  omega

theorem min_doubled_eq_iff {base cap attempt : Nat} :
    min cap (base * 2 ^ min (attempt - 1) 16) = min cap (base * 2 ^ (attempt - 1)) ↔
      Reaches base cap attempt := by
  constructor
  · intro same
    -- With seventeen doublings or more and a cap beyond sixteen, the two differ.
    by_contra other
    simp only [Reaches, not_or, Nat.not_le] at other
    obtain ⟨late, positive, low⟩ := other
    have grown : base * 2 ^ 16 < base * 2 ^ (attempt - 1) :=
      Nat.mul_lt_mul_of_pos_left (Nat.pow_lt_pow_right (by decide) (by omega))
        (Nat.pos_of_ne_zero positive)
    rw [Nat.min_eq_right (by omega : 16 ≤ attempt - 1)] at same
    omega
  · rintro (early | rfl | low)
    · rw [Nat.min_eq_left (by omega : attempt - 1 ≤ 16)]
    · simp
    · rcases Nat.le_total (attempt - 1) 16 with early | late
      · rw [Nat.min_eq_left early]
      · have grown : base * 2 ^ 16 ≤ base * 2 ^ (attempt - 1) :=
          Nat.mul_le_mul_left _ (Nat.pow_le_pow_right (by decide) late)
        rw [Nat.min_eq_right late, Nat.min_eq_left low, Nat.min_eq_left (low.trans grown)]

theorem doubles_iff (attempts : Nat) (base cap : UInt64) (jitter : Span) (attempt : Nat) :
    Doubles ⟨attempts, .ofMillis base, .ofMillis cap, jitter⟩ base.toNat cap.toNat attempt ↔
      Reaches base.toNat cap.toNat attempt := by
  rw [Doubles, nanos_backoff, Nat.mul_left_inj (by decide), min_doubled_eq_iff]

theorem Doubles.next {policy : RetryPolicy} {base cap attempt : Nat}
    (doubles : policy.Doubles base cap (attempt + 1))
    (again : policy.Doubles base cap (attempt + 2)) :
    (policy.backoff (attempt + 2)).nanos =
      min (cap * 1000000) (2 * (policy.backoff (attempt + 1)).nanos) := by
  have wait : (policy.backoff (attempt + 1)).nanos = min cap (base * 2 ^ attempt) * 1000000 :=
    doubles
  have next : (policy.backoff (attempt + 2)).nanos = min cap (base * 2 ^ (attempt + 1)) * 1000000 :=
    again
  have twice : base * 2 ^ (attempt + 1) = 2 * (base * 2 ^ attempt) := by ring
  rw [next, wait, twice]
  omega

/-- Waits double until the cap is reached, whatever the attempt, unless the cap is beyond sixteen
doublings. For the pages of a source it never is; for a store that is not up yet it may be, by the
numbers that the environment gives. -/
theorem backoff_doubles (attempt : Nat) :
    (∀ (attempts : Nat) (base cap : UInt64) (jitter : Span),
      Doubles ⟨attempts, .ofMillis base, .ofMillis cap, jitter⟩ base.toNat cap.toNat attempt ↔
        Reaches base.toNat cap.toNat attempt) ∧
    (∀ env : Settings.Environment,
      let base := UInt64.ofNat (env.numberOr UInt64.size "PORTAL_DB_WAIT_BACKOFF_START_MS" 500)
      let cap := UInt64.ofNat (env.numberOr UInt64.size "PORTAL_DB_WAIT_BACKOFF_MAX_MS" 5000)
      (Settings.Database.ofEnvironment env).wait.Doubles base.toNat cap.toNat attempt ↔
        Reaches base.toNat cap.toNat attempt) ∧
    (∀ source : Settings.Source, source.retryPolicy.Doubles 500 8000 attempt) ∧
    ∀ (policy : RetryPolicy) (base cap : Nat), policy.Doubles base cap (attempt + 1) →
      policy.Doubles base cap (attempt + 2) →
      (policy.backoff (attempt + 2)).nanos =
        min (cap * 1000000) (2 * (policy.backoff (attempt + 1)).nanos) := by
  refine ⟨fun attempts base cap jitter => doubles_iff attempts base cap jitter attempt, ?_, ?_,
    fun policy base cap => Doubles.next⟩
  · intro env base cap
    exact doubles_iff _ base cap .zero attempt
  · intro source
    exact (doubles_iff source.maxRetries 500 8000 _ attempt).mpr (.inr (.inr (by decide)))

/-- The fourth wait before a page of the source is four seconds, and the fifth is the cap of eight. -/
theorem backoff_doubles_source :
    let policy := ({} : Settings.Source).retryPolicy
    policy.Doubles 500 8000 4 ∧ policy.Doubles 500 8000 5 ∧
      (policy.backoff 4).nanos = 4000 * 1000000 ∧
      (policy.backoff 5).nanos = min (8000 * 1000000) (2 * (policy.backoff 4).nanos) := by
  intro policy
  obtain ⟨-, -, -, next⟩ := backoff_doubles 3
  obtain ⟨-, -, fourth, -⟩ := backoff_doubles 4
  obtain ⟨-, -, fifth, -⟩ := backoff_doubles 5
  exact ⟨fourth {}, fifth {}, fourth {}, next policy 500 8000 (fourth {}) (fifth {})⟩

/-- With a base of one millisecond and a cap of a quarter of an hour the waits no longer double after
the seventeenth. -/
theorem backoff_doubles_stalled :
    let policy : RetryPolicy := ⟨30, .ofMillis 1, .ofMillis 900000, .zero⟩
    (policy.backoff 17).nanos = 65536 * 1000000 ∧ (policy.backoff 18).nanos = 65536 * 1000000 ∧
      ¬ policy.Doubles 1 900000 18 := by
  intro policy
  have stalled : (policy.backoff 18).nanos = 65536 * 1000000 := nanos_backoff 30 1 900000 .zero 18
  refine ⟨nanos_backoff 30 1 900000 .zero 17, stalled, ?_⟩
  rw [Doubles, stalled]
  decide

end RetryPolicy

end Roster
