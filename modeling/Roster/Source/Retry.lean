import Roster.Time.Span

namespace Roster

/-! How often and after which delays a failed operation is tried again. -/

structure RetryPolicy where
  maxAttempts : Nat := 5
  base : Span := .ofMillis 500
  cap : Span := .ofMillis 8000
  jitter : Span := .ofMillis 250
  deriving DecidableEq, Inhabited

namespace RetryPolicy

/-- The base doubles with every attempt after the first, up to sixteen times, and is cut off at the
cap. -/
def backoff (policy : RetryPolicy) (attempt : Nat) : Span :=
  min (policy.base.scale (1 <<< min (attempt - 1) 16)) policy.cap

/-- The largest jitter in whole milliseconds. -/
def jitterMillis (policy : RetryPolicy) : Nat := min policy.jitter.millis (UInt64.size - 1)

/-- The jitter that a random number selects. -/
def jitterOf (policy : RetryPolicy) (draw : Nat) : Span :=
  Span.ofNanos (draw % (policy.jitterMillis + 1) * 1000000)

/-- The wait after a failed attempt: what the other side asked for, or a jittered backoff. -/
def delay (policy : RetryPolicy) (attempt : Nat) (retryAfter : Option Span) (draw : Nat) : Span :=
  match retryAfter with
  | some wait => wait
  | none => policy.backoff attempt + policy.jitterOf draw

end RetryPolicy

end Roster
