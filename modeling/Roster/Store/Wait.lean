import Roster.Source.Retry
import Roster.Store.Error
import Roster.Time.Instant

namespace Roster.Store

/-! Waiting for a store that may not be up yet: it is pinged until it answers, or it fails in a way
that will not pass, or the attempts are used up. -/

namespace Wait

variable {σ : Type}

/-- Pings from the given attempt on. The number drawn after a ping selects the jitter of the wait that
follows. Gives the number of the ping that was answered, or the last failure, and when that was. -/
def runFrom (policy : RetryPolicy) (draw : Nat → Nat)
    (ping : σ → Instant → σ × Except StoreError Unit) (attempt : Nat) (state : σ) (now : Instant) :
    σ × Except StoreError Nat × Instant :=
  match ping state now with
  | (state, .ok ()) => (state, .ok attempt, now)
  | (state, .error error) =>
    if ¬ error.isTransient ∨ policy.maxAttempts ≤ attempt then (state, .error error, now)
    else
      let delay := policy.delay attempt none (draw attempt)
      runFrom policy draw ping (attempt + 1) state ⟨now.nanos + delay.nanos⟩
termination_by policy.maxAttempts - attempt
decreasing_by rename_i h; simp only [not_or, Nat.not_le] at h; omega

def run (policy : RetryPolicy) (ping : σ → Instant → σ × Except StoreError Unit) (state : σ)
    (start : Instant) (draw : Nat → Nat := fun _ => 0) : σ × Except StoreError Nat × Instant :=
  runFrom policy draw ping 1 state start

end Wait

end Roster.Store
