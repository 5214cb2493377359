import Mathlib.Algebra.BigOperators.Group.List.Basic
import Mathlib.Algebra.GroupWithZero.Nat
import Mathlib.Data.List.Induction
import Mathlib.Order.Bounds.Basic
import Roster.Proofs.Source.Answering
import Roster.Settings
import Roster.Source.Pursuit

namespace Roster.Source

/-! How often pages are asked for that are pursued side by side, and how long each waits in between. -/

namespace Pursuit

@[simp] theorem page_proceed (pursuit : Pursuit) (next : Fetch.Next) :
    (pursuit.proceed next).page = pursuit.page := by
  cases next <;> rfl

@[simp] theorem page_stop (pursuit : Pursuit) : pursuit.stop.page = pursuit.page := by
  unfold stop
  split <;> rfl

def hasSucceeded (pursuit : Pursuit) : Bool :=
  match pursuit.stage with
  | .ended result => result.isOk
  | _ => false

def hasFailed (pursuit : Pursuit) : Bool :=
  match pursuit.stage with
  | .ended result => !result.isOk
  | _ => false

end Pursuit

/-! One pursuit. -/

section Course

variable (policy : RetryPolicy) (replies : Nat → Reply)

/-- The pauses after the first so many attempts. -/
def pausesOf (attempts : Nat) : List Span :=
  (List.range attempts).map fun earlier => pauseAfter policy (replies (earlier + 1)) (earlier + 1)

/-- The first so many attempts have all failed, with budget left and by failures that may pass. -/
structure Persists (attempts : Nat) : Prop where
  passing : ∀ attempt, 0 < attempt → attempt ≤ attempts → isPassing (replies attempt).page = true
  left : attempts < policy.budget

/-- How a pursuit can stand, by the attempts before the one that it is at. -/
inductive Course (page : UInt32) : Pursuit → Prop
  | asked {earlier : Nat} (persists : Persists policy replies earlier) :
      Course page
        ⟨page, earlier + 1, pausesOf policy replies earlier, .asked ⟨page, earlier + 1⟩⟩
  | paused {earlier : Nat} (persists : Persists policy replies (earlier + 1)) :
      Course page
        ⟨page, earlier + 1, pausesOf policy replies (earlier + 1), .paused ⟨page, earlier + 1⟩⟩
  | ended {earlier : Nat} (persists : Persists policy replies earlier)
      (final : earlier + 1 = policy.budget ∨ isPassing (replies (earlier + 1)).page = false) :
      Course page
        ⟨page, earlier + 1, pausesOf policy replies earlier,
          .ended (conclusion page (earlier + 1) (replies (earlier + 1)).page)⟩
  | stopped {calls : Nat} {pauses : List Span} : Course page ⟨page, calls, pauses, .stopped⟩

end Course

variable {policy : RetryPolicy} {replies : Nat → Reply} {pursuit : Pursuit}

theorem pausesOf_succ (policy : RetryPolicy) (replies : Nat → Reply) (attempts : Nat) :
    pausesOf policy replies (attempts + 1) =
      pausesOf policy replies attempts ++
        [pauseAfter policy (replies (attempts + 1)) (attempts + 1)] := by
  rw [pausesOf, List.range_succ, List.map_append]
  rfl

theorem Persists.start (policy : RetryPolicy) (replies : Nat → Reply) :
    Persists policy replies 0 :=
  ⟨fun _ positive none => absurd positive (Nat.not_lt.mpr none), policy.budget_pos⟩

theorem Persists.succ {attempts : Nat} (persists : Persists policy replies attempts)
    (passing : isPassing (replies (attempts + 1)).page = true)
    (left : attempts + 1 < policy.budget) : Persists policy replies (attempts + 1) where
  passing attempt positive within := by
    rcases Nat.lt_or_eq_of_le within with before | rfl
    · exact persists.passing attempt positive (Nat.lt_succ_iff.mp before)
    · exact passing
  left := left

/-- After an answer that is final, or with the attempts used up, nothing more is asked. -/
theorem Persists.final {attempts : Nat} (persists : Persists policy replies attempts)
    (settled : isPassing (replies (attempts + 1)).page = false ∨
      policy.maxAttempts ≤ attempts + 1) :
    attempts + 1 = policy.budget ∨ isPassing (replies (attempts + 1)).page = false := by
  rcases settled with final | used
  · exact .inr final
  · have spent := (policy.budget_le_iff attempts.succ_pos).mpr used
    exact .inl (Nat.le_antisymm persists.left spent)

theorem Persists.postponed {attempts : Nat} (persists : Persists policy replies attempts)
    (passing : isPassing (replies (attempts + 1)).page = true)
    (left : attempts + 1 < policy.maxAttempts) : Persists policy replies (attempts + 1) := by
  refine persists.succ passing (Nat.not_le.mp fun spent => ?_)
  exact Nat.not_le.mpr left ((policy.budget_le_iff attempts.succ_pos).mp spent)

/-- The last attempt is the first whose answer is final, unless the budget is spent before. -/
theorem Persists.isLeast {attempts : Nat} (persists : Persists policy replies attempts)
    (final : attempts + 1 = policy.budget ∨
      isPassing (replies (attempts + 1)).page = false) :
    IsLeast
      (insert policy.budget {attempt | 0 < attempt ∧ isPassing (replies attempt).page = false})
      (attempts + 1) := by
  refine ⟨final.imp id fun final => ⟨attempts.succ_pos, final⟩, ?_⟩
  rintro attempt (rfl | ⟨positive, final⟩)
  · exact persists.left
  · by_contra late
    have passing := persists.passing attempt positive (Nat.lt_succ_iff.mp (Nat.not_le.mp late))
    rw [final] at passing
    cases passing

/-- How many more events it takes at most until a pursuit ends. -/
def Pursuit.remaining (pursuit : Pursuit) (policy : RetryPolicy) : Nat :=
  match pursuit.stage with
  | .asked _ => 2 * (policy.budget - pursuit.calls) + 1
  | .paused _ => 2 * (policy.budget - pursuit.calls)
  | .ended _ => 0
  | .stopped => 0

/-- What a step of a pursuit adds to the counts of its client. -/
structure Counts (client after : Client) (before pursuit : Pursuit) : Prop where
  retry : after.retry = client.retry
  calls : after.tally.calls + before.calls = client.tally.calls + pursuit.calls
  retries :
    after.tally.retries + before.pauses.length = client.tally.retries + pursuit.pauses.length
  failures :
    after.tally.failures + before.hasFailed.toNat =
      client.tally.failures + pursuit.hasFailed.toNat

theorem Counts.stop (client : Client) (pursuit : Pursuit) :
    Counts client client pursuit pursuit.stop := by
  obtain ⟨page, calls, pauses, stage⟩ := pursuit
  cases stage <;> exact ⟨rfl, rfl, rfl, rfl⟩

namespace Course

variable {page : UInt32} {client : Client}

theorem start (policy : RetryPolicy) (replies : Nat → Reply) (page : UInt32) :
    Course policy replies page { page, stage := .asked ⟨page, 1⟩ } :=
  .asked (.start policy replies)

/-- A pursuit ends, or pauses if its answer may pass and its budget is not spent. -/
theorem answered {earlier : Nat} (persists : Persists client.retry replies earlier)
    {result : Client × Fetch.Next}
    (answered : client.Answered ⟨page, earlier + 1⟩ (replies (earlier + 1)) result) :
    let before : Pursuit :=
      ⟨page, earlier + 1, pausesOf client.retry replies earlier, .asked ⟨page, earlier + 1⟩⟩
    let pursuit := before.proceed result.2
    Course client.retry replies page pursuit ∧ Counts client result.1 before pursuit ∧
      pursuit.remaining client.retry < before.remaining client.retry := by
  cases answered with
  | settled settled =>
      exact ⟨.ended persists (persists.final settled), ⟨rfl, rfl, rfl, rfl⟩, Nat.succ_pos _⟩
  | postponed passing left =>
      have course : Course client.retry replies page _ :=
        .paused (persists.postponed passing left)
      rw [pausesOf_succ] at course
      refine ⟨course, ⟨rfl, rfl, ?_, rfl⟩, Nat.lt_succ_self _⟩
      simp only [Pursuit.proceed, List.length_append, List.length_singleton]
      omega

theorem next (course : Course client.retry replies page pursuit) {after : Client}
    {comes : Fetch.Next} (next : pursuit.next? client replies = some (after, comes)) :
    Course client.retry replies page (pursuit.proceed comes) ∧
      Counts client after pursuit (pursuit.proceed comes) ∧
      (pursuit.proceed comes).remaining client.retry < pursuit.remaining client.retry := by
  cases course with
  | @asked earlier persists =>
      have result := client.answer_answered ⟨page, earlier + 1⟩ (replies (earlier + 1))
      rw [Option.some.inj next] at result
      exact answered persists result
  | paused persists =>
      cases next
      refine ⟨.asked persists, ⟨rfl, ?_, rfl, rfl⟩, ?_⟩
      · simp only [Pursuit.proceed]
        omega
      · have left := persists.left
        simp only [Pursuit.proceed, Pursuit.remaining]
        omega
  | ended | stopped => cases next

theorem stop (course : Course policy replies page pursuit) :
    Course policy replies page pursuit.stop := by
  cases course with
  | asked | paused | stopped => exact .stopped
  | ended persists final => exact .ended persists final

/-- Only a pursuit that has ended or was stopped has no next step. -/
theorem next?_isSome (course : Course policy replies page pursuit) (client : Client)
    (goes : pursuit.stage ≠ .stopped) :
    (∃ result, pursuit.stage = .ended result) ∨
      ∃ after comes, pursuit.next? client replies = some (after, comes) := by
  cases course with
  | asked | paused => exact .inr ⟨_, _, rfl⟩
  | ended => exact .inl ⟨_, rfl⟩
  | stopped => exact absurd rfl goes

end Course

/-! All pursuits. -/

/-- What the replacement of one item adds to a sum over all of them. -/
theorem sum_set {α : Type} {items : List α} {id : Nat} {item : α}
    (found : items[id]? = some item) (count : α → Nat) (other : α) :
    ((items.set id other).map count).sum + count item = (items.map count).sum + count other := by
  obtain ⟨inside, rfl⟩ := List.getElem?_eq_some_iff.mp found
  have split : items = items.take id ++ items[id] :: items.drop (id + 1) := by
    rw [← List.drop_eq_getElem_cons, List.take_append_drop]
  rw [List.set_eq_take_append_cons_drop, if_pos inside]
  conv => rhs; rw [split]
  simp only [List.map_append, List.map_cons, List.sum_append, List.sum_cons]
  omega

theorem sum_toNat {α : Type} (items : List α) (test : α → Bool) :
    (items.map fun item => (test item).toNat).sum = items.countP test := by
  induction items with
  | nil => rfl
  | cons item items ih =>
      rw [List.map_cons, List.sum_cons, List.countP_cons, ih, Nat.add_comm]
      cases test item <;> rfl

namespace Bureau

/-- A client with its pursuits: each runs its course, and what they have done is counted. -/
structure Sound (policy : RetryPolicy) (script : Nat → Nat → Reply) (bureau : Bureau) :
    Prop where
  retry : bureau.client.retry = policy
  course : ∀ {id pursuit}, bureau.pursuits[id]? = some pursuit →
    Course policy (script id) pursuit.page pursuit
  calls : bureau.client.tally.calls = (bureau.pursuits.map Pursuit.calls).sum
  retries :
    bureau.client.tally.retries = (bureau.pursuits.map fun pursuit => pursuit.pauses.length).sum
  failures :
    bureau.client.tally.failures = (bureau.pursuits.map fun pursuit => pursuit.hasFailed.toNat).sum

variable {policy : RetryPolicy} {script : Nat → Nat → Reply} {bureau : Bureau} {id : Nat}
  {pursuit : Pursuit}

namespace Sound

theorem start (settings : Settings.Source) (script : Nat → Nat → Reply) :
    Sound settings.retryPolicy script (start settings) :=
  ⟨rfl, nofun, rfl, rfl, rfl⟩

/-- One pursuit goes on. -/
theorem set (sound : bureau.Sound policy script) (found : bureau.pursuits[id]? = some pursuit)
    {client : Client} {other : Pursuit} (course : Course policy (script id) other.page other)
    (counts : Counts bureau.client client pursuit other) :
    Sound policy script { client, pursuits := bureau.pursuits.set id other } where
  retry := counts.retry.trans sound.retry
  course {place moved} found' := by
    rw [List.getElem?_set] at found'
    split at found'
    · rename_i same
      subst same
      split at found'
      · cases found'
        exact course
      · cases found'
    · exact sound.course found'
  calls := by
    have all := sum_set found Pursuit.calls other
    have one := counts.calls
    have before := sound.calls
    dsimp only
    omega
  retries := by
    have all := sum_set found (fun pursuit => pursuit.pauses.length) other
    have one := counts.retries
    have before := sound.retries
    dsimp only
    omega
  failures := by
    have all := sum_set found (fun pursuit => pursuit.hasFailed.toNat) other
    have one := counts.failures
    have before := sound.failures
    dsimp only
    omega

theorem begin (sound : bureau.Sound policy script) (page : UInt32) (now : Instant) :
    Sound policy script (bureau.step script (.begin page now)) := by
  have fetched := bureau.client.fetch_fetched page now
  rw [step]
  generalize bureau.client.fetch page now = result at fetched
  cases fetched with
  | remembered => exact { sound with }
  | asked =>
      refine ⟨sound.retry, fun {place pursuit} found => ?_, ?_, ?_, ?_⟩
      · rw [List.getElem?_append] at found
        split at found
        · exact sound.course found
        · rw [List.getElem?_singleton] at found
          split at found
          · cases found
            exact .start policy (script place) page
          · cases found
      · simp [sound.calls]
      · simp [sound.retries]
      · simp [sound.failures, Pursuit.hasFailed]

theorem step (sound : bureau.Sound policy script) (event : Event) :
    Sound policy script (bureau.step script event) := by
  cases event with
  | begin page now => exact sound.begin page now
  | advance id =>
      rw [Bureau.step]
      split
      · rename_i pursuit found
        split
        · rename_i client next goes
          have course := sound.course found
          rw [← sound.retry] at course
          obtain ⟨course', counts, -⟩ := course.next goes
          rw [sound.retry] at course'
          exact sound.set found (by rwa [Pursuit.page_proceed]) counts
        · exact sound
      · exact sound
  | stop id =>
      rw [Bureau.step]
      split
      · rename_i pursuit found
        have course := (sound.course found).stop
        exact sound.set found (by rwa [Pursuit.page_stop]) (.stop bureau.client pursuit)
      · exact sound
  | poison => exact { sound with }

theorem run (sound : bureau.Sound policy script) (events : List Event) :
    Sound policy script (bureau.run script events) := by
  induction events using List.reverseRecOn with
  | nil => exact sound
  | append_singleton events event ih =>
      rw [Bureau.run, List.foldl_append]
      exact ih.step event

/-- A pursuit that is let go on ends. -/
theorem ends (sound : bureau.Sound policy script) (found : bureau.pursuits[id]? = some pursuit)
    (goes : pursuit.stage ≠ .stopped) {steps : Nat} (enough : pursuit.remaining policy ≤ steps) :
    ∃ ended result,
      (bureau.run script (.replicate steps (.advance id))).pursuits[id]? = some ended ∧
        ended.stage = .ended result := by
  induction steps generalizing bureau pursuit with
  | zero =>
      have course := sound.course found
      rcases course.next?_isSome bureau.client goes with ⟨result, ended⟩ | ⟨after, next, goes⟩
      · exact ⟨pursuit, result, found, ended⟩
      · rw [← sound.retry] at course enough
        have fewer := (course.next goes).2.2
        omega
  | succ steps ih =>
      have later : bureau.run script (.replicate (steps + 1) (.advance id)) =
          (bureau.step script (.advance id)).run script (.replicate steps (.advance id)) := rfl
      have course := sound.course found
      have sound' := sound.step (.advance id)
      rw [later]
      rcases course.next?_isSome bureau.client goes with ⟨result, ended⟩ | ⟨after, next, goes'⟩
      · have same : bureau.step script (.advance id) = bureau := by
          rw [Bureau.step, found]
          dsimp only
          rw [Pursuit.next?, ended]
        rw [same]
        exact ih sound found goes (by rw [Pursuit.remaining, ended]; exact Nat.zero_le _)
      · have moved : bureau.step script (.advance id) =
            { client := after, pursuits := bureau.pursuits.set id (pursuit.proceed next) } := by
          rw [Bureau.step, found]
          dsimp only
          rw [goes']
        rw [← sound.retry] at course enough
        have fewer := (course.next goes').2.2
        rw [moved] at sound' ⊢
        have inside : id < bureau.pursuits.length := (List.getElem?_eq_some_iff.mp found).1
        refine ih sound' (List.getElem?_set_self inside) ?_ ?_
        · cases next <;> nofun
        · rw [← sound.retry]
          omega

end Sound

end Bureau

/-- What has become of a pursuit that has ended. -/
structure Pursuit.Concluded (policy : RetryPolicy) (replies : Nat → Reply) (pursuit : Pursuit)
    (result : Except SourceError SourcePage) : Prop where
  calls :
    IsLeast
      (insert (max 1 policy.maxAttempts)
        {attempt | 0 < attempt ∧ isPassing (replies attempt).page = false})
      pursuit.calls
  returned : isPassing (replies pursuit.calls).page = false →
    result = (replies pursuit.calls).page
  exhausted : ∀ error, (replies pursuit.calls).page = .error error → error.isTransient = true →
    result = .error (.unavailable pursuit.page pursuit.calls error.message)
  length_pauses : pursuit.pauses.length = pursuit.calls - 1
  pauses : ∀ attempt span, pursuit.pauses[attempt]? = some span → ∃ error,
    (replies (attempt + 1)).page = .error error ∧
      match error.retryAfter? with
      | some wait => span = wait
      | none =>
        policy.backoff (attempt + 1) ≤ span ∧ span ≤ policy.backoff (attempt + 1) + policy.jitter

/-- The counts of a client, and what each of its pursuits has to do with them. -/
structure Bureau.Balanced (bureau : Bureau) : Prop where
  calls : bureau.client.tally.calls = (bureau.pursuits.map Pursuit.calls).sum
  retries :
    bureau.client.tally.retries = (bureau.pursuits.map fun pursuit => pursuit.pauses.length).sum
  failures : bureau.client.tally.failures = bureau.pursuits.countP Pursuit.hasFailed
  /-- Those that have ended, or some of them. -/
  ended : ∀ finished : List Pursuit, finished.Sublist bureau.pursuits →
    (∀ pursuit ∈ finished, ∃ result, pursuit.stage = .ended result) →
    (finished.map Pursuit.calls).sum =
      finished.countP Pursuit.hasSucceeded +
          (finished.map fun pursuit => pursuit.pauses.length).sum +
        finished.countP Pursuit.hasFailed

theorem Course.concluded {page : UInt32} (course : Course policy replies page pursuit)
    {result : Except SourceError SourcePage} (ended : pursuit.stage = .ended result) :
    pursuit.Concluded policy replies result := by
  cases course with
  | asked | paused | stopped => cases ended
  | @ended earlier persists final =>
      cases ended
      refine ⟨persists.isLeast final, ?_, ?_, ?_, ?_⟩
      · exact fun final => conclusion_of_final final page (earlier + 1)
      · intro error failed passing
        rw [failed]
        exact if_pos passing
      · simp [pausesOf]
      · intro attempt span found
        have within : attempt < earlier := by
          have inside := (List.getElem?_eq_some_iff.mp found).1
          simpa [pausesOf] using inside
        have passing := persists.passing (attempt + 1) attempt.succ_pos within
        obtain ⟨error, failed⟩ : ∃ error, (replies (attempt + 1)).page = .error error := by
          cases failed : (replies (attempt + 1)).page with
          | ok => rw [failed] at passing; cases passing
          | error error => exact ⟨error, rfl⟩
        have spec := pauseAfter_spec policy failed (attempt + 1)
        have same : span = pauseAfter policy (replies (attempt + 1)) (attempt + 1) := by
          simpa [pausesOf, within] using found.symm
        exact ⟨error, failed, same ▸ spec⟩

theorem Bureau.Sound.balanced {script : Nat → Nat → Reply} {bureau : Bureau}
    (sound : bureau.Sound policy script) : bureau.Balanced where
  calls := sound.calls
  retries := sound.retries
  failures := sound.failures.trans (sum_toNat _ _)
  ended finished sublist ended := by
    have member : ∀ pursuit ∈ finished, pursuit ∈ bureau.pursuits :=
      fun _ listed => sublist.subset listed
    clear sublist
    induction finished with
    | nil => rfl
    | cons pursuit rest ih =>
        obtain ⟨result, last⟩ := ended pursuit List.mem_cons_self
        obtain ⟨id, found⟩ := List.mem_iff_getElem?.mp (member pursuit List.mem_cons_self)
        have concluded := (sound.course found).concluded last
        have positive : 0 < pursuit.calls := by
          rcases concluded.calls.1 with budget | final
          · rw [budget]
            exact policy.budget_pos
          · exact final.1
        have others := ih (fun other later => ended other (List.mem_cons_of_mem _ later))
          fun other later => member other (List.mem_cons_of_mem _ later)
        have length := concluded.length_pauses
        have one : pursuit.hasSucceeded.toNat + pursuit.hasFailed.toNat = 1 := by
          rw [Pursuit.hasSucceeded, Pursuit.hasFailed, last]
          dsimp only
          cases result.isOk <;> rfl
        simp only [← sum_toNat, List.map_cons, List.sum_cons] at others ⊢
        omega

/-- Every pursuit makes its requests and pauses as its own replies ask for, and ends unless it is
stopped; the client's counts are theirs. -/
theorem Bureau.run_retries (settings : Settings.Source) (script : Nat → Nat → Reply)
    (events : List Bureau.Event) :
    ((start settings).run script events).Balanced ∧
      ∀ id pursuit, ((start settings).run script events).pursuits[id]? = some pursuit →
        (∀ result, pursuit.stage = .ended result →
          pursuit.Concluded settings.retryPolicy (script id) result) ∧
        (pursuit.stage ≠ .stopped → ∃ steps ended result,
          ((start settings).run script (events ++ .replicate steps (.advance id))).pursuits[id]? =
              some ended ∧
            ended.stage = .ended result ∧
            ended.Concluded settings.retryPolicy (script id) result) := by
  have sound := (Bureau.Sound.start settings script).run events
  refine ⟨sound.balanced, fun id pursuit found => ⟨fun result ended => ?_, fun goes => ?_⟩⟩
  · exact (sound.course found).concluded ended
  · obtain ⟨ended, result, found', last⟩ := sound.ends found goes (Nat.le_refl _)
    have later : (start settings).run script (events ++ .replicate _ (.advance id)) =
        ((start settings).run script events).run script
          (.replicate (pursuit.remaining settings.retryPolicy) (.advance id)) :=
      List.foldl_append
    refine ⟨_, ended, result, later ▸ found', last, ?_⟩
    exact ((sound.run _).course found').concluded last

/-! Two pages side by side, while the memory of their client is spoilt again and again: the first
comes at the second attempt, the other at neither. -/

def Bureau.recovering : Nat → Nat → Reply
  | 0, 1 => ⟨⟨0⟩, 7, .error (.transient 1 "busy" (some (.ofSecs 2)))⟩
  | 0, _ => ⟨⟨0⟩, 7, .ok {}⟩
  | _, 1 => ⟨⟨0⟩, 7, .error (.transient 2 "late" none)⟩
  | _, _ => ⟨⟨0⟩, 7, .error (.transient 2 "lost" none)⟩

def Bureau.crossing : List Bureau.Event :=
  [.poison, .begin 1 ⟨0⟩, .poison, .begin 2 ⟨0⟩, .advance 0, .advance 1, .advance 0, .advance 1,
    .advance 1, .advance 0]

theorem Bureau.run_retries_crossing :
    let settings : Settings.Source := { maxRetries := 2 }
    let bureau := (start settings).run recovering crossing
    let lost := SourceError.unavailable 2 2 (SourceError.transient 2 "lost" none).message
    bureau.Balanced ∧ bureau.client.tally = { calls := 4, retries := 2, failures := 1 } ∧
      ∃ first second : Pursuit, bureau.pursuits = [first, second] ∧
        first.pauses = [.ofSecs 2] ∧ first.stage = .ended (.ok {}) ∧
        first.Concluded settings.retryPolicy (recovering 0) (.ok {}) ∧
        second.pauses = [.ofMillis 507] ∧ second.stage = .ended (.error lost) ∧
        second.Concluded settings.retryPolicy (recovering 1) (.error lost) := by
  intro settings bureau lost
  obtain ⟨balanced, each⟩ := run_retries settings recovering crossing
  have pursuits : bureau.pursuits =
      [⟨1, 2, [.ofSecs 2], .ended (.ok {})⟩, ⟨2, 2, [.ofMillis 507], .ended (.error lost)⟩] := by
    decide +kernel
  have tally : bureau.client.tally = { calls := 4, retries := 2, failures := 1 } := by
    decide +kernel
  have first := each 0 _ (congrArg (fun pursuits => pursuits[0]?) pursuits)
  have second := each 1 _ (congrArg (fun pursuits => pursuits[1]?) pursuits)
  exact ⟨balanced, tally, _, _, pursuits, rfl, rfl, first.1 _ rfl, rfl, rfl, second.1 _ rfl⟩

end Roster.Source
