import Mathlib.Data.Nat.Find
import Roster.Source.Stream

namespace Roster.Source

/-! Where a walk ends that goes on by whatever it is answered. -/

namespace Stream

@[simp] theorem client_proceed (stream : Stream) (walk : Walk) (next : Client × Fetch.Next) :
    (stream.proceed walk next).client = next.1 := by
  unfold proceed
  split <;> rfl

variable {stream : Stream} {script : Nat → Reply} {failure? : Option SourceError}

theorem after_of_finished {steps : Nat}
    (finished : (stream.after script steps).position = .finished failure?)
    (more : Nat) : stream.after script (steps + more) = stream.after script steps := by
  induction more with
  | zero => rfl
  | succ more ih =>
      change (stream.after script (steps + more)).step (script (steps + more)) = _
      rw [ih, step, finished]

/-- A stream is finished in one way only. -/
theorem after_unique {steps other : Nat} {other? : Option SourceError}
    (finished : (stream.after script steps).position = .finished failure?)
    (finished' : (stream.after script other).position = .finished other?) :
    stream.after script steps = stream.after script other := by
  rcases Nat.le_total steps other with later | later
  · obtain ⟨more, rfl⟩ := Nat.exists_eq_add_of_le later
    exact (after_of_finished finished more).symm
  · obtain ⟨more, rfl⟩ := Nat.exists_eq_add_of_le later
    exact after_of_finished finished' more

/-- A stream that ends has a first step at which it is finished. -/
theorem exists_first_finished
    (ends : ∃ steps failure?, (stream.after script steps).position = .finished failure?) :
    ∃ steps failure?, (stream.after script steps).position = .finished failure? ∧
      ∀ earlier < steps, ∀ other?, (stream.after script earlier).position ≠ .finished other? := by
  classical
  obtain ⟨failure?, finished⟩ := Nat.find_spec ends
  exact ⟨Nat.find ends, failure?, finished, fun earlier before other? finished' =>
    Nat.find_min ends before ⟨other?, finished'⟩⟩

end Stream

end Roster.Source
