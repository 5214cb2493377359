import Roster.Proofs.Refresh.Answers
import Roster.Refresh.Duty

namespace Roster.Refresh

/-! What a cycle, and a replica on duty, does with the memory of the client. -/

namespace Cycle

variable {L : Type}

theorem memo_proceed (replica : Replica) (lease : L) (gathered : Gathered) (walk : Source.Walk)
    (next : Source.Client × Source.Fetch.Next) :
    (proceed replica lease gathered walk next).1.client.memo = next.1.memo := by
  unfold proceed
  split
  · rfl
  · rfl
  · unfold cutShort
    dsimp only
    split <;> rfl
  · rfl

theorem memo_onWalk (replica : Replica) (lease : L) (gathered : Gathered) (walk : Source.Walk)
    (now : Instant) :
    (onWalk replica lease gathered walk now).1.client.memo =
      ((walking lease gathered walk).usage (.walk now)).apply replica.client.memo := by
  obtain ⟨_ | page⟩ := walk
  · rfl
  · change (proceed ..).1.client.memo = _
    rw [memo_proceed, Source.Client.fetch]
    change _ = (replica.client.memo.look page now).1
    obtain ⟨memo, _ | found⟩ := replica.client.memo.look page now <;> rfl

theorem memo_onPage (replica : Replica) (lease : L) (gathered : Gathered) (walk : Source.Walk)
    (fetch : Source.Fetch) (result : Except SourceError SourcePage) (draw : Nat) (now : Instant) :
    (onPage replica lease gathered walk fetch result draw now).1.client.memo =
      ((fetching lease gathered walk fetch).usage (.page result draw now)).apply
        replica.client.memo := by
  rw [onPage, memo_proceed]
  cases result with
  | ok content => rfl
  | error error =>
      cases error with
      | transient =>
          rw [Source.Client.answer]
          split <;> rfl
      | fatal | unavailable => rfl

/-- What becomes of the memory of the client in a step of a cycle. -/
theorem memo_take? {replica : Replica} {cycle : Cycle L} {answer : Answer L}
    {result : Replica × Step L} (takes : cycle.take? replica answer = some result) :
    result.1.client.memo = (cycle.usage answer).apply replica.client.memo := by
  unfold take? at takes
  split at takes
  · cases takes
    unfold onLock
    split <;> rfl
  · cases takes
    unfold onCount
    split
    · rfl
    · split <;> rfl
  · cases takes
    apply memo_onWalk
  · cases takes
    apply memo_onPage
  · cases takes
    apply memo_proceed
  · rename_i answer _
    cases takes
    cases answer <;> rfl
  · cases takes
    rfl
  · cases takes

end Cycle

namespace Duty

variable {L : Type} (duty : Duty L) {lease : L} {gathered : Gathered} {page : UInt32} (moment : Instant)

/-- A page that is not in memory is asked for. -/
theorem step_walk_missed {memo : Cache.Memo UInt32 SourcePage}
    (posted : duty.post.cycle? = some (.walking lease gathered ⟨some page⟩))
    (missed : duty.replica.client.memo.look page duty.now = (memo, none)) :
    duty.step (.answer (.walk moment)) = { duty with
      replica := { duty.replica with
        client := ({ duty.replica.client with memo }.ask ⟨page, 0⟩).1 }
      post := duty.post.after (.await (.fetching lease gathered ⟨some page⟩ ⟨page, 1⟩)) } := by
  have noted : duty.note (.looks page duty.now) = duty := by rw [note, missed]
  have uses : (Cycle.walking lease gathered ⟨some page⟩).usage (.walk duty.now) =
      .looks page duty.now := rfl
  have taken : (Cycle.walking lease gathered ⟨some page⟩).take? duty.replica (.walk duty.now) =
      some ({ duty.replica with client := ({ duty.replica.client with memo }.ask ⟨page, 0⟩).1 },
        .await (.fetching lease gathered ⟨some page⟩ ⟨page, 1⟩)) := by
    change some (Cycle.proceed _ _ _ _ (duty.replica.client.fetch page duty.now)) = _
    rw [Source.Client.fetch, missed]
    rfl
  rw [step, posted]
  change duty.proceed _ (.walk duty.now) = _
  rw [proceed, taken, uses]
  dsimp only
  rw [noted]

/-- A page that is in memory is served from there. -/
theorem servings_step_walk {content : SourcePage}
    (posted : duty.post.cycle? = some (.walking lease gathered ⟨some page⟩))
    (found : (duty.replica.client.memo.look page duty.now).2 = some content) :
    (duty.step (.answer (.walk moment))).servings =
      ⟨page, content, duty.begun, duty.now, duty.last? page⟩ :: duty.servings := by
  have noted : (duty.note (.looks page duty.now)).servings =
      ⟨page, content, duty.begun, duty.now, duty.last? page⟩ :: duty.servings := by
    rw [note, found]
  rw [step, posted]
  change (duty.proceed _ (.walk duty.now)).servings = _
  rw [proceed, Cycle.take?]
  exact noted

end Duty

end Roster.Refresh
