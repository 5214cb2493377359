import Roster.Deployment
import Roster.Proofs.Refresh.Answers

namespace Roster

/-! What the writers of a deployment have done: written only what they had sent, and emptied the page
cache only after that. -/

namespace Writer

variable {L : Type}

theorem heed?_eq_some {writer : Writer L} {answer : Refresh.Cycle.Answer L}
    {cycle : Refresh.Cycle L} (heeds : writer.heed? answer = some cycle) :
    writer.cycle? = some cycle ∧ (answer.isWritten → writer.written) := by
  unfold heed? at heeds
  split at heeds
  · cases heeds
  · rename_i honest
    refine ⟨heeds, fun isWritten => ?_⟩
    simpa [isWritten] using honest

@[simp]
theorem written_advance (writer : Writer L) (answer : Refresh.Cycle.Answer L)
    (step : Refresh.Cycle.Step L) : (writer.advance answer step).written = writer.written := by
  unfold advance
  split <;> rfl

@[simp]
theorem cleared_advance (writer : Writer L) (answer : Refresh.Cycle.Answer L)
    (step : Refresh.Cycle.Step L) :
    (writer.advance answer step).cleared = (writer.cleared || answer.isWritten) := by
  unfold advance
  split <;> rfl

/-- A writer sends one upsert, which takes effect once at most; after that it only gives up its lock,
and it empties the page cache between the two. -/
structure Sound (writer : Writer L) : Prop where
  late : writer.written = true ∨ writer.unwritten? ≠ none → ∀ cycle, writer.cycle? = some cycle →
    (∃ lease gathered cutShort, cycle = .storing lease gathered cutShort) ∨
      ∃ lease outcome, cycle = .releasing lease outcome
  once : writer.written → writer.unwritten? = none
  cleared : writer.cleared → writer.written ∧ ∀ cycle, writer.cycle? = some cycle →
    ∃ lease outcome, cycle = .releasing lease outcome

namespace Sound

variable {writer : Writer L}

theorem begin (coordinator : Nat) (cycle : Refresh.Cycle L) :
    (Writer.mk coordinator (some cycle) none false false).Sound := by
  constructor <;> simp

theorem stop (sound : writer.Sound) : Sound (L := L) { writer with cycle? := none } where
  late _ _ running := nomatch running
  once := sound.once
  cleared isCleared := ⟨(sound.cleared isCleared).1, fun _ running => nomatch running⟩

theorem commit (sound : writer.Sound) {rows : List Character}
    (sent : writer.unwritten? = some rows) :
    Sound (L := L) { writer with unwritten? := none, written := true } where
  late _ := sound.late (.inr (by simp [sent]))
  once _ := rfl
  cleared isCleared := ⟨rfl, (sound.cleared isCleared).2⟩

theorem advance_early (unsent : writer.written = false ∧ writer.unwritten? = none)
    (uncleared : writer.cleared = false) {answer : Refresh.Cycle.Answer L}
    (other : answer.isWritten = false) (step : Refresh.Cycle.Step L) :
    (writer.advance answer step).Sound := by
  obtain ⟨unwritten, nothing⟩ := unsent
  unfold Writer.advance
  split
  · constructor
    · rintro - _ ⟨⟩
      exact .inl ⟨_, _, _, rfl⟩
    · simp [unwritten]
    · simp [uncleared, other]
  · constructor <;> simp [unwritten, nothing, uncleared, other]
  · constructor <;> simp [unwritten, nothing, uncleared, other]

theorem advance (sound : writer.Sound) {cycle : Refresh.Cycle L} {replica : Replica}
    {answer : Refresh.Cycle.Answer L} {result : Replica × Refresh.Cycle.Step L}
    (running : writer.cycle? = some cycle)
    (takes : cycle.take? replica answer = some result)
    (honest : answer.isWritten → writer.written) : (writer.advance answer result.2).Sound := by
  by_cases storing : ∃ lease gathered cutShort, cycle = .storing lease gathered cutShort
  · obtain ⟨lease, gathered, cutShort, rfl⟩ := storing
    obtain ⟨outcome, awaits⟩ := Refresh.Cycle.await_of_storing takes
    rw [awaits]
    constructor
    · rintro - _ ⟨⟩
      exact .inr ⟨lease, outcome, rfl⟩
    · exact sound.once
    · intro isCleared
      constructor
      · rcases Bool.or_eq_true_iff.mp isCleared with before | now
        · exact (sound.cleared before).1
        · exact honest now
      · rintro _ ⟨⟩
        exact ⟨lease, outcome, rfl⟩
  · have other : answer.isWritten = false := by
      rw [← Bool.not_eq_true]
      exact fun written => storing (Refresh.Cycle.storing_of_isWritten takes written)
    by_cases releasing : ∃ lease outcome, cycle = .releasing lease outcome
    · obtain ⟨lease, outcome, rfl⟩ := releasing
      rw [Refresh.Cycle.ended_of_releasing takes]
      have kept : writer.advance answer (.ended outcome) = { writer with cycle? := none } := by
        simp [Writer.advance, other]
      rw [kept]
      exact sound.stop
    · have early : ¬(writer.written = true ∨ writer.unwritten? ≠ none) := by
        intro late
        rcases sound.late late cycle running with found | found
        · exact storing found
        · exact releasing found
      have uncleared : writer.cleared = false := by
        rw [← Bool.not_eq_true]
        exact fun isCleared => early (.inl (sound.cleared isCleared).1)
      simp only [not_or, Bool.not_eq_true, ne_eq, Classical.not_not] at early
      exact advance_early early uncleared other result.2

end Sound

end Writer

end Roster
