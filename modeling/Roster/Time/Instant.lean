import Roster.Time.Span

namespace Roster

/-! Readings of a clock that never goes back, in nanoseconds after some fixed start. -/

structure Instant where
  nanos : Nat
  deriving DecidableEq, Inhabited

namespace Instant

/-- A clock reading holds its seconds in a signed 64-bit word, so none lies beyond this one. -/
def bound : Nat := 0x8000000000000000 * 1000000000

/-- The reading after a wait, unless the clock cannot hold it. -/
def after? (start : Instant) (span : Span) : Option Instant :=
  if start.nanos + span.nanos < bound then some ⟨start.nanos + span.nanos⟩ else none

/-- How many nanoseconds `now` lies after `earlier`: zero if it does not. -/
def since (now earlier : Instant) : Nat := now.nanos - earlier.nanos

/-- Whether something made at `made` has by `now` outlived a lifetime of `ttl`. Living for
exactly `ttl` is allowed. -/
def outlives (ttl : Span) (made now : Instant) : Bool := decide (ttl.nanos < now.since made)

def ofMillis (millis : Nat) : Instant := ⟨millis * 1000000⟩

def millis (reading : Instant) : Nat := reading.nanos / 1000000

instance : LE Instant := ⟨fun a b => a.nanos ≤ b.nanos⟩

instance : LT Instant := ⟨fun a b => a.nanos < b.nanos⟩

instance (a b : Instant) : Decidable (a ≤ b) := inferInstanceAs (Decidable (a.nanos ≤ b.nanos))

instance (a b : Instant) : Decidable (a < b) := inferInstanceAs (Decidable (a.nanos < b.nanos))

theorem outlives_iff {ttl : Span} {made now : Instant} :
    outlives ttl made now = true ↔ ttl.nanos + made.nanos < now.nanos := by
  rw [outlives, decide_eq_true_iff, since]
  omega

end Instant

end Roster
