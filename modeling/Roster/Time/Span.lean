namespace Roster

/-! Lengths of time, counted in nanoseconds and bounded by the largest number of seconds that a
64-bit word holds. Arithmetic stops at the bound. -/

structure Span where
  nanos : Nat
  nanos_lt : nanos < UInt64.size * 1000000000
  deriving DecidableEq

namespace Span

/-- The first count of nanoseconds that is too long. -/
def bound : Nat := UInt64.size * 1000000000

/-- The span of so many nanoseconds, or the longest one. -/
def ofNanos (n : Nat) : Span where
  nanos := min n (bound - 1)
  nanos_lt := by simp only [bound, UInt64.size]; omega

def ofSecs (secs : UInt64) : Span where
  nanos := secs.toNat * 1000000000
  nanos_lt := Nat.mul_lt_mul_of_pos_right secs.toNat_lt (by decide)

def ofMillis (millis : UInt64) : Span where
  nanos := millis.toNat * 1000000
  nanos_lt := by have := millis.toNat_lt; simp only [UInt64.size]; omega

def zero : Span := ⟨0, by decide⟩

def longest : Span := ofNanos bound

instance : Inhabited Span := ⟨zero⟩

instance : LE Span := ⟨fun a b => a.nanos ≤ b.nanos⟩

instance : LT Span := ⟨fun a b => a.nanos < b.nanos⟩

instance (a b : Span) : Decidable (a ≤ b) := inferInstanceAs (Decidable (a.nanos ≤ b.nanos))

instance (a b : Span) : Decidable (a < b) := inferInstanceAs (Decidable (a.nanos < b.nanos))

instance : Min Span := ⟨fun a b => if a ≤ b then a else b⟩

def secs (s : Span) : Nat := s.nanos / 1000000000

def subsec (s : Span) : Nat := s.nanos % 1000000000

def millis (s : Span) : Nat := s.nanos / 1000000

def add (a b : Span) : Span := ofNanos (a.nanos + b.nanos)

def scale (s : Span) (factor : Nat) : Span := ofNanos (s.nanos * factor)

instance : Add Span := ⟨add⟩

@[ext] theorem ext {a b : Span} (h : a.nanos = b.nanos) : a = b := by
  cases a; cases b; simp_all

@[simp] theorem nanos_ofNanos (n : Nat) : (ofNanos n).nanos = min n (bound - 1) := rfl

@[simp] theorem nanos_ofSecs (secs : UInt64) : (ofSecs secs).nanos = secs.toNat * 1000000000 := rfl

@[simp] theorem nanos_ofMillis (millis : UInt64) :
    (ofMillis millis).nanos = millis.toNat * 1000000 := rfl

@[simp] theorem nanos_zero : zero.nanos = 0 := rfl

theorem le_def {a b : Span} : a ≤ b ↔ a.nanos ≤ b.nanos := Iff.rfl

theorem lt_def {a b : Span} : a < b ↔ a.nanos < b.nanos := Iff.rfl

@[simp] theorem nanos_min (a b : Span) : (min a b).nanos = min a.nanos b.nanos := by
  change (if a ≤ b then a else b).nanos = _
  simp only [le_def]
  split <;> omega

@[simp] theorem nanos_add (a b : Span) :
    (a + b).nanos = min (a.nanos + b.nanos) (bound - 1) := rfl

@[simp] theorem nanos_scale (s : Span) (factor : Nat) :
    (s.scale factor).nanos = min (s.nanos * factor) (bound - 1) := rfl

@[simp] theorem secs_ofSecs (secs : UInt64) : (ofSecs secs).secs = secs.toNat := by
  simp [Span.secs]

end Span

end Roster
