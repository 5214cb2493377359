import Roster.Proofs.Source.Classification
import Roster.Proofs.Source.Pursuit
import Roster.Proofs.Source.RetryAfter

namespace Roster

namespace RetryPolicy

/-- The waits before a page is asked for again never come near a minute by themselves. -/
theorem delay_le_minute (source : Settings.Source) (attempt draw : Nat) :
    (source.retryPolicy.delay attempt none draw).nanos ≤ 60 * 1000000000 := by
  have bounded := source.retryPolicy.delay_le attempt draw
  have capped : (source.retryPolicy.backoff attempt).nanos ≤ 8000 * 1000000 := by
    rw [backoff, Span.nanos_min]
    exact Nat.min_le_right _ _
  have jitter : source.retryPolicy.jitter.nanos = 250 * 1000000 := rfl
  rw [Span.le_def, Span.nanos_add, jitter] at bounded
  omega

end RetryPolicy

namespace Source

/-! The pauses between the requests for a page. Before each request but the first there is one, and
it is the one that the answer to the request before asks for. -/

variable {policy : RetryPolicy} {replies : Nat → Reply} {pursuit : Pursuit}

/-- There are as many pauses as requests that were to be repeated, each after its own answer. -/
structure Paced (policy : RetryPolicy) (replies : Nat → Reply) (pursuit : Pursuit) : Prop where
  pauses_eq : pursuit.pauses = pausesOf policy replies pursuit.pauses.length
  calls_le : pursuit.calls ≤ pursuit.pauses.length + 1

@[simp] theorem length_pausesOf (policy : RetryPolicy) (replies : Nat → Reply) (attempts : Nat) :
    (pausesOf policy replies attempts).length = attempts := by
  rw [pausesOf, List.length_map, List.length_range]

theorem Course.paced {page : UInt32} (course : Course policy replies page pursuit)
    (goes : pursuit.stage ≠ .stopped) : Paced policy replies pursuit := by
  cases course with
  | asked | ended => exact ⟨by rw [length_pausesOf], by rw [length_pausesOf]⟩
  | paused => exact ⟨by rw [length_pausesOf], by rw [length_pausesOf]; exact Nat.le_succ _⟩
  | stopped => exact absurd rfl goes

theorem Paced.stop (paced : Paced policy replies pursuit) : Paced policy replies pursuit.stop := by
  unfold Pursuit.stop
  split
  · exact paced
  · exact ⟨paced.pauses_eq, paced.calls_le⟩

theorem Paced.getElem? (paced : Paced policy replies pursuit) {attempt : Nat}
    (repeated : attempt + 1 < pursuit.calls) :
    pursuit.pauses[attempt]? = some (pauseAfter policy (replies (attempt + 1)) (attempt + 1)) := by
  have within : attempt < pursuit.pauses.length := by
    have enough := paced.calls_le
    omega
  rw [paced.pauses_eq, pausesOf]
  simp [within]

theorem getElem?_set_cases {α : Type} {items : List α} {place id : Nat} {item other : α}
    (found : (items.set place other)[id]? = some item) :
    place = id ∧ item = other ∨ items[id]? = some item := by
  rw [List.getElem?_set] at found
  split at found
  · rename_i same
    split at found
    · exact .inl ⟨same, (Option.some.inj found).symm⟩
    · cases found
  · exact .inr found

/-- A failure by its status asks for the wait that its headers tell, if they tell one. -/
theorem pauseAfter_of_defers {reply : Reply} {page : UInt32} {response : Message.Response}
    (came : reply.page = Http.pageOf page (.response response))
    (defers : Status.Defers response.status) (policy : RetryPolicy) (attempt : Nat) :
    pauseAfter policy reply attempt =
      policy.delay attempt (RetryAfter.parse (response.values "retry-after")) reply.draw := by
  rw [pauseAfter, came, Http.pageOf_of_status defers.not_succeeds,
    Http.statusError_of_defers defers]
  rfl

namespace Bureau

variable {script : Nat → Nat → Reply} {bureau : Bureau}

theorem paced_step (sound : bureau.Sound policy script)
    (paced : ∀ {id pursuit}, bureau.pursuits[id]? = some pursuit → Paced policy (script id) pursuit)
    (event : Event) {id : Nat} {pursuit : Pursuit}
    (found : (bureau.step script event).pursuits[id]? = some pursuit) :
    Paced policy (script id) pursuit := by
  cases event with
  | poison => exact paced found
  | begin page now =>
      rw [step] at found
      split at found
      · rw [List.getElem?_append] at found
        split at found
        · exact paced found
        · rw [List.getElem?_singleton] at found
          split at found
          · cases found
            exact ⟨rfl, Nat.le_refl 1⟩
          · cases found
      · exact paced found
  | stop place =>
      rw [step] at found
      split at found
      · rename_i before standing
        rcases getElem?_set_cases found with ⟨rfl, rfl⟩ | same
        · exact (paced standing).stop
        · exact paced same
      · exact paced found
  | advance place =>
      rw [step] at found
      split at found
      · rename_i before standing
        split at found
        · rename_i client next goes
          rcases getElem?_set_cases found with ⟨rfl, rfl⟩ | same
          · have course := sound.course standing
            rw [← sound.retry] at course
            have onward := (course.next goes).1
            rw [sound.retry] at onward
            refine onward.paced fun stopped => ?_
            cases next <;> cases stopped
          · exact paced same
        · exact paced found
      · exact paced found

theorem paced_run (sound : bureau.Sound policy script)
    (paced : ∀ {id pursuit}, bureau.pursuits[id]? = some pursuit → Paced policy (script id) pursuit)
    (events : List Event) {id : Nat} {pursuit : Pursuit}
    (found : (bureau.run script events).pursuits[id]? = some pursuit) :
    Paced policy (script id) pursuit := by
  induction events using List.reverseRecOn generalizing id pursuit with
  | nil => exact paced found
  | append_singleton events event ih =>
      rw [run, List.foldl_append] at found
      exact paced_step (sound.run events) ih event found

/-- The number in the first `Retry-After` header is read whatever its length. So the wait before a
request is repeated that was answered by 429 or a server error is that number of seconds, a minute
at most, or the backoff with its jitter where no number is told. -/
theorem run_paces (policy : RetryPolicy) (capacity : Nat) (ttl : Span)
    (script : Nat → Nat → Reply) (events : List Event) :
    (∀ values wait, RetryAfter.parse values = some wait ↔ ∃ value rest n,
      values = value :: rest ∧ RetryAfter.Tells value n ∧ wait.nanos = min 60 n * 1000000000) ∧
    ∀ id pursuit,
      (run script { client := .new capacity ttl policy } events).pursuits[id]? = some pursuit →
      ∀ attempt response, attempt + 1 < pursuit.calls →
        (script id (attempt + 1)).page = Http.pageOf pursuit.page (.response response) →
        Status.Defers response.status →
        ∃ pause, pursuit.pauses[attempt]? = some pause ∧
          (∀ wait, RetryAfter.parse (response.values "retry-after") = some wait → pause = wait) ∧
          (RetryAfter.parse (response.values "retry-after") = none →
            pause = policy.backoff (attempt + 1) +
              policy.jitterOf (script id (attempt + 1)).draw) ∧
          ∀ source : Settings.Source, policy = source.retryPolicy →
            pause.nanos ≤ 60 * 1000000000 := by
  refine ⟨fun values wait => RetryAfter.parse_eq_some, ?_⟩
  intro id pursuit found attempt response repeated came defers
  have sound : Sound policy script { client := .new capacity ttl policy } :=
    ⟨rfl, (fun found => by cases found), rfl, rfl, rfl⟩
  have paced := paced_run sound (fun found => by cases found) events found
  refine ⟨_, paced.getElem? repeated, ?_⟩
  rw [pauseAfter_of_defers came defers]
  cases told : RetryAfter.parse (response.values "retry-after") with
  | none =>
      refine ⟨(fun _ same => by cases same), fun _ => rfl, ?_⟩
      rintro source rfl
      exact RetryPolicy.delay_le_minute source _ _
  | some wait =>
      refine ⟨fun _ same => Option.some.inj same, (fun untold => by cases untold), ?_⟩
      intro source _
      exact RetryAfter.le_minute_of_parse told

/-! A page that is refused twice: the first time with a number that fits no word, and then with one
that is none. -/

/-- Zeros and nines, between blanks. -/
def lengthy : List UInt8 := [0x20] ++ (.replicate 5 0x30 ++ .replicate 21 0x39) ++ [0x20, 0x09]

theorem tells_lengthy : RetryAfter.Tells lengthy (999999999999999999999) :=
  ⟨[0x20], .replicate 5 0x30 ++ .replicate 21 0x39, [0x20, 0x09], rfl, List.all_eq_true.mp rfl,
    List.all_eq_true.mp rfl, by decide, List.all_eq_true.mp rfl, by decide⟩

def busy : Message.Response where
  status := 429
  headers := [⟨"retry-after", lengthy⟩, ⟨"retry-after", [0x35]⟩]

def broken : Message.Response where
  status := 503
  headers := [⟨"retry-after", [0x2D, 0x31]⟩]

def throttled (_id : Nat) : Nat → Reply
  | 1 => ⟨⟨0⟩, 7, Http.pageOf 1 (.response busy)⟩
  | _ => ⟨⟨0⟩, 7, Http.pageOf 1 (.response broken)⟩

theorem run_paces_throttled :
    let policy := ({} : Settings.Source).retryPolicy
    let bureau := run throttled { client := .new 64 (.ofSecs 60) policy }
      [.poison, .begin 1 ⟨0⟩, .advance 0, .advance 0, .advance 0, .advance 0]
    ∃ pursuit, bureau.pursuits[0]? = some pursuit ∧ pursuit.page = 1 ∧ pursuit.calls = 3 ∧
      pursuit.pauses[0]? = some (.ofSecs 60) ∧ pursuit.pauses[1]? = some (.ofMillis 1007) := by
  intro policy bureau
  have stands : bureau.pursuits.map (fun pursuit => (pursuit.page, pursuit.calls)) = [(1, 3)] := by
    decide +kernel
  obtain ⟨pursuit, found, same⟩ := List.map_eq_singleton_iff.mp stands
  obtain ⟨page, calls⟩ := Prod.mk.inj same
  have standing : bureau.pursuits[0]? = some pursuit := by rw [found]; rfl
  obtain ⟨reads, paces⟩ := run_paces policy 64 (.ofSecs 60) throttled
    [.poison, .begin 1 ⟨0⟩, .advance 0, .advance 0, .advance 0, .advance 0]
  have told : RetryAfter.parse (busy.values "retry-after") = some (.ofSecs 60) :=
    (reads _ _).mpr ⟨lengthy, [[0x35]], 999999999999999999999, rfl, tells_lengthy, by decide⟩
  have untold : RetryAfter.parse (broken.values "retry-after") = none := by decide
  obtain ⟨first, paused, asked, -⟩ := paces 0 pursuit standing 0 busy (by omega)
    (by rw [page]; rfl) (.inl rfl)
  obtain ⟨second, paused', -, unasked, -⟩ := paces 0 pursuit standing 1 broken (by omega)
    (by rw [page]; rfl) (.inr (by decide))
  cases asked _ told
  have jittered : second = .ofMillis 1007 := (unasked untold).trans (Span.ext (by decide))
  exact ⟨pursuit, standing, page, calls, paused, jittered ▸ paused'⟩

end Bureau

end Source

end Roster
