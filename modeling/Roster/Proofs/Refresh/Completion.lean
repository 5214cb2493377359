import Mathlib.Algebra.GroupWithZero.Nat
import Roster.Proofs.Refresh.Attempt
import Roster.Proofs.Store.Operations

namespace Roster

namespace Refresh

/-! What a cycle needs in order to complete, and what it has done then: it holds its lock, takes the
pages that the walk yields, and writes what they admit over what was stored. -/

namespace Gathered

/-- What is gathered from pages, taken in this order. -/
def ofPages (pages : List SourcePage) : Gathered := pages.foldl add {}

theorem ofPages_append (pages : List SourcePage) (page : SourcePage) :
    ofPages (pages ++ [page]) = (ofPages pages).add page :=
  List.foldl_concat ..

theorem ofPages_eq (pages : List SourcePage) :
    ofPages pages =
      { pages := pages.length
        fetched := (pages.map fun page => page.results.length).sum
        kept := Batch.ofList (Candidate.admitted (pages.flatMap SourcePage.results)) } := by
  induction pages using List.reverseRecOn with
  | nil => rfl
  | append_singleton pages page ih =>
      rw [ofPages_append, ih, add]
      simp [Batch.ofList, Batch.insertAll_append]

/-- What a cycle returns that has written what was gathered. -/
def completion (gathered : Gathered) (cutShort : Bool) : Completion where
  pages := gathered.pages
  fetched := gathered.fetched
  kept := gathered.kept.size
  upserted := gathered.kept.size
  cutShort := cutShort

end Gathered

namespace Cycle

/-- How a cycle stands while the walk that it takes its pages from stands so. -/
def under {L : Type} (lease : L) (policy : PartialPolicy) (stream : Source.Stream) : Cycle L :=
  let gathered := Gathered.ofPages stream.yielded
  match stream.position with
  | .ready walk => .walking lease gathered walk
  | .asked walk fetch => .fetching lease gathered walk fetch
  | .paused walk fetch span => .pausing lease gathered walk fetch span
  | .finished none => .storing lease gathered false
  | .finished (some error) =>
    if policy = .abort ∨ gathered.pages = 0 then
      .releasing lease (.failed error.kind gathered.kept.size)
    else .storing lease gathered true

end Cycle

/-- How many answers a cycle takes before it walks. -/
def Mode.beforeWalk : Mode → Nat
  | .refresh => 1
  | .seed => 2

namespace Attempt

/-- The attempt after so many answers. -/
def after (attempt : Attempt) (script : Nat → Reply) : Nat → Attempt
  | 0 => attempt
  | steps + 1 => (attempt.after script steps).step (.reply (script steps))

variable {attempt : Attempt} {script : Nat → Reply}

theorem after_add (attempt : Attempt) (script : Nat → Reply) (steps more : Nat) :
    attempt.after script (steps + more) =
      (attempt.after script steps).after (fun place => script (steps + place)) more := by
  induction more with
  | zero => rfl
  | succ more ih =>
      change (attempt.after script (steps + more)).step _ = _
      rw [ih]
      rfl

theorem after_of_over {steps : Nat} (finished : (attempt.after script steps).stage.isOver)
    (more : Nat) : attempt.after script (steps + more) = attempt.after script steps := by
  induction more with
  | zero => rfl
  | succ more ih =>
      change (attempt.after script (steps + more)).step _ = _
      rw [ih]
      rcases (step_of_over finished (.reply (script (steps + more)))).2 with foreign | same
      · cases foreign
      · exact same

/-- An attempt is over in one way only. -/
theorem after_unique {steps other : Nat} (finished : (attempt.after script steps).stage.isOver)
    (finished' : (attempt.after script other).stage.isOver) :
    attempt.after script steps = attempt.after script other := by
  rcases Nat.le_total steps other with later | later
  · obtain ⟨more, rfl⟩ := Nat.exists_eq_add_of_le later
    exact (after_of_over finished more).symm
  · obtain ⟨more, rfl⟩ := Nat.exists_eq_add_of_le later
    exact after_of_over finished' more

/-- An attempt that goes on after so many answers is not over before. -/
theorem lt_of_over {steps other : Nat} {cycle : Cycle Lease}
    (runs : (attempt.after script steps).stage = .running cycle)
    (finished : (attempt.after script other).stage.isOver) : steps < other := by
  by_contra early
  obtain ⟨more, rfl⟩ := Nat.exists_eq_add_of_le (Nat.not_lt.mp early)
  rw [after_of_over finished] at runs
  rw [runs] at finished
  cases finished

/-! The walk. -/

/-- The cycle takes its pages from this walk and has not touched anything else. -/
structure Walks (store : Simulation.FaultyStore) (replica : Replica) (lease : Lease)
    (stream : Source.Stream) (attempt : Attempt) : Prop where
  runs : attempt.stage = .running (Cycle.under lease replica.policy stream)
  store_eq : attempt.store = store
  client : attempt.replica.client = stream.client
  policy : attempt.replica.policy = replica.policy
  pages : attempt.replica.pages = replica.pages

variable {store : Simulation.FaultyStore} {replica : Replica} {lease : Lease}
  {stream : Source.Stream}

theorem walks_proceed (walks : attempt.Walks store replica lease stream) (walk : Source.Walk)
    (next : Source.Client × Source.Fetch.Next) :
    Walks store replica lease (stream.proceed walk next)
      (take attempt.store
        (Cycle.proceed attempt.replica lease (.ofPages stream.yielded) walk next)) := by
  obtain ⟨client, next⟩ := next
  cases next with
  | ask => exact ⟨rfl, walks.store_eq, rfl, walks.policy, walks.pages⟩
  | pause => exact ⟨rfl, walks.store_eq, rfl, walks.policy, walks.pages⟩
  | done result =>
      cases result with
      | ok page =>
          refine ⟨?_, walks.store_eq, rfl, walks.policy, walks.pages⟩
          change Stage.running (.walking lease _ _) =
            .running (.walking lease (.ofPages (_ ++ _)) _)
          rw [Gathered.ofPages_append]
      | error error =>
          change Walks store replica lease _ (take attempt.store
            (Cycle.cutShort { attempt.replica with client } lease (.ofPages stream.yielded) error))
          have under_eq : Cycle.under lease replica.policy
              (stream.proceed walk (client, .done (.error error))) =
              if replica.policy = .abort ∨ (Gathered.ofPages stream.yielded).pages = 0 then
                .releasing lease (.failed error.kind (Gathered.ofPages stream.yielded).kept.size)
              else .storing lease (.ofPages stream.yielded) true := rfl
          unfold Cycle.cutShort
          dsimp only
          rw [walks.policy]
          split
          · rename_i ends
            exact ⟨by rw [under_eq, if_pos ends]; rfl, walks.store_eq, rfl, rfl, walks.pages⟩
          · rename_i goesOn
            exact ⟨by rw [under_eq, if_neg goesOn]; rfl, walks.store_eq, rfl, rfl, walks.pages⟩

/-- As long as the walk goes on, cycle and walk make the same steps. -/
theorem walks_step (walks : attempt.Walks store replica lease stream)
    (goesOn : ∀ failure?, stream.position ≠ .finished failure?) (reply : Reply) :
    (attempt.step (.reply reply)).Walks store replica lease (stream.step reply.toReply) := by
  have runs := walks.runs
  rw [step_reply runs, Source.Stream.step]
  cases stands : stream.position with
  | finished failure? => exact absurd stands (goesOn failure?)
  | ready walk =>
      rw [Cycle.under, stands, advance, Cycle.onWalk]
      dsimp only
      cases next : walk.next with
      | none => exact ⟨rfl, walks.store_eq, walks.client, walks.policy, walks.pages⟩
      | some page =>
          rw [walks.client]
          exact walks_proceed walks walk _
  | asked walk fetch =>
      rw [Cycle.under, stands, advance, Cycle.onPage, walks.client]
      exact walks_proceed walks walk _
  | paused walk fetch span =>
      rw [Cycle.under, stands, advance, Cycle.onWake, walks.client]
      exact walks_proceed walks walk _

theorem walks_after (walks : attempt.Walks store replica lease stream) {steps : Nat}
    (goesOn : ∀ earlier < steps, ∀ failure?,
      (stream.after (fun place => (script place).toReply) earlier).position ≠ .finished failure?) :
    (attempt.after script steps).Walks store replica lease
      (stream.after (fun place => (script place).toReply) steps) := by
  induction steps with
  | zero => exact walks
  | succ steps ih =>
      exact walks_step (ih fun earlier before => goesOn earlier (Nat.lt_succ_of_lt before))
        (goesOn steps (Nat.lt_succ_self steps)) (script steps)

/-! Attempts that never complete. -/

def Fails (attempt : Attempt) (script : Nat → Reply) : Prop :=
  ∀ steps completion, (attempt.after script steps).stage ≠ .ended (.completed completion)

theorem fails_of_after (steps : Nat)
    (fails : (attempt.after script steps).Fails fun place => script (steps + place)) :
    attempt.Fails script := by
  intro other completion completes
  rcases Nat.le_total steps other with later | later
  · obtain ⟨more, rfl⟩ := Nat.exists_eq_add_of_le later
    rw [after_add] at completes
    exact fails more completion completes
  · obtain ⟨more, rfl⟩ := Nat.exists_eq_add_of_le later
    refine fails 0 completion ?_
    rw [after, after_of_over (by rw [completes]; rfl) more, completes]

theorem fails_of_over (finished : attempt.stage.isOver)
    (incomplete : ∀ completion, attempt.stage ≠ .ended (.completed completion)) :
    attempt.Fails script := by
  intro steps completion completes
  have first : (attempt.after script 0).stage.isOver := finished
  have same := after_of_over first steps
  rw [Nat.zero_add, after] at same
  rw [same] at completes
  exact incomplete completion completes

theorem fails_of_releasing {outcome : Outcome}
    (runs : attempt.stage = .running (.releasing lease outcome))
    (incomplete : ∀ completion, outcome ≠ .completed completion) : attempt.Fails script := by
  refine fails_of_after 1 ?_
  rw [after, after, step_reply runs]
  refine fails_of_over rfl fun completion completes => ?_
  cases completes
  exact incomplete completion rfl

/-! The end of a cycle that has something to store. -/

/-- Two steps more and the attempt has completed. In the first all is written and noted. -/
structure Completes (attempt : Attempt) (script : Nat → Reply) (lease : Lease)
    (completion : Completion) (rows : Batch) : Prop where
  leaves : (attempt.after script 1).stage = .running (.releasing lease (.completed completion))
  writes : (attempt.after script 1).store.memory.rows = rows
  clears : (attempt.after script 1).replica.pages = attempt.replica.pages.clear
  notes :
    (attempt.after script 1).replica.freshness.lastMillis = some (script 0).time.millis
  ends : (attempt.after script 2).stage = .ended (.completed completion)
  keeps : (attempt.after script 2).store.memory.rows = rows

theorem storing_cases (script : Nat → Reply) {gathered : Gathered} {cutShort : Bool}
    (runs : attempt.stage = .running (.storing lease gathered cutShort)) :
    (attempt.Fails script ∧
      ¬ (attempt.store.upsertError = none ∧ attempt.store.crashes = false)) ∨
    (attempt.store.upsertError = none ∧ attempt.store.crashes = false) ∧
      attempt.Completes script lease (gathered.completion cutShort)
        (attempt.store.memory.upsert gathered.kept.rows).1.rows := by
  have written := attempt.store.written_upsert gathered.kept.rows
  have first := step_reply runs (script 0)
  rw [advance] at first
  generalize attempt.store.upsert gathered.kept.rows = result at written first
  cases written with
  | crashed crashes =>
      refine .inl ⟨fails_of_after 1 ?_, fun works => nomatch crashes.symm.trans works.2⟩
      rw [after, after, first]
      exact fails_of_over rfl nofun
  | failed fails =>
      refine .inl ⟨fails_of_after 1 ?_, fun works => nomatch fails.symm.trans works.1⟩
      rw [after, after, first]
      exact fails_of_releasing rfl nofun
  | @done store stands works memory =>
      have size : (attempt.store.memory.upsert gathered.kept.rows).2 = gathered.kept.size :=
        Batch.size_ofList_rows gathered.kept
      rw [size] at first
      have leaves : (attempt.after script 1).stage =
          .running (.releasing lease (.completed (gathered.completion cutShort))) := by
        rw [after, after, first]
        rfl
      have second := step_reply leaves (script 1)
      refine .inr ⟨⟨works, stands⟩, leaves, ?_, ?_, ?_, ?_, ?_⟩
      · rw [after, after, first, ← memory]
        rfl
      · rw [after, after, first]
        rfl
      · rw [after, after, first]
        rfl
      · rw [after, second]
        rfl
      · rw [after, second, after, after, first, ← memory]
        rfl

/-! The end of the walk. -/

/-- What was gathered is good enough to be stored. -/
def Suffices (policy : PartialPolicy) (stream : Source.Stream) (failure? : Option SourceError) :
    Prop :=
  failure? = none ∨ policy = .proceed ∧ stream.yielded ≠ []

theorem Suffices.under {policy : PartialPolicy} {failure? : Option SourceError}
    (suffices' : Suffices policy stream failure?)
    (finished : stream.position = .finished failure?) :
    Cycle.under lease policy stream =
      .storing lease (.ofPages stream.yielded) failure?.isSome := by
  rw [Cycle.under, finished]
  cases failure? with
  | none => rfl
  | some error =>
      rcases suffices' with none_eq | ⟨rfl, some_page⟩
      · cases none_eq
      · dsimp only
        rw [if_neg]
        · rfl
        · rw [Gathered.ofPages_eq]
          simpa using some_page

theorem under_of_not_suffices (lease : Lease) {policy : PartialPolicy}
    {failure? : Option SourceError} (fails : ¬ Suffices policy stream failure?)
    (finished : stream.position = .finished failure?) :
    ∃ kind records,
      Cycle.under lease policy stream = .releasing lease (.failed kind records) := by
  rw [Cycle.under, finished]
  cases failure? with
  | none => exact absurd (.inl rfl) fails
  | some error =>
      refine ⟨error.kind, _, if_pos ?_⟩
      by_contra goesOn
      rw [not_or, Gathered.ofPages_eq] at goesOn
      refine fails (.inr ⟨?_, ?_⟩)
      · cases policy with
        | proceed => rfl
        | abort => exact absurd rfl goesOn.1
      · simpa using goesOn.2

theorem ends_of_finished (script : Nat → Reply) {failure? : Option SourceError}
    (walks : attempt.Walks store replica lease stream)
    (finished : stream.position = .finished failure?) :
    (attempt.Fails script ∧ ¬ (Suffices replica.policy stream failure? ∧
      store.upsertError = none ∧ store.crashes = false)) ∨
    (Suffices replica.policy stream failure? ∧ store.upsertError = none ∧ store.crashes = false) ∧
      attempt.Completes script lease
        ((Gathered.ofPages stream.yielded).completion failure?.isSome)
        (store.memory.upsert (Gathered.ofPages stream.yielded).kept.rows).1.rows := by
  have runs := walks.runs
  obtain rfl := walks.store_eq
  by_cases suffices' : Suffices replica.policy stream failure?
  · rw [Suffices.under suffices' finished] at runs
    rcases storing_cases script runs with ⟨fails, broken⟩ | ⟨works, completes⟩
    · exact .inl ⟨fails, fun all => broken all.2⟩
    · exact .inr ⟨⟨suffices', works⟩, completes⟩
  · obtain ⟨kind, records, under_eq⟩ := under_of_not_suffices lease suffices' finished
    rw [under_eq] at runs
    exact .inl ⟨fails_of_releasing runs nofun, fun all => suffices' all.1⟩

/-! The beginning. -/

/-- What a cycle needs in order to begin its walk. -/
structure Admits (store : Simulation.FaultyStore) (mode : Mode) : Prop where
  lockable : store.lockError = none
  unlocked : store.memory.locks.isLocked mode.lock = false
  vacant : mode = .seed → store.queryError = none ∧ store.memory.count = 0

theorem counting_cases (script : Nat → Reply)
    (runs : attempt.stage = .running (.counting lease)) :
    (attempt.Fails script ∧
      ¬ (attempt.store.queryError = none ∧ attempt.store.memory.count = 0)) ∨
    (attempt.store.queryError = none ∧ attempt.store.memory.count = 0) ∧
      attempt.after script 1 = { attempt with stage := .running (.walking lease {} {}) } := by
  have first : attempt.after script 1 = _ := step_reply runs (script 0)
  rcases attempt.advance_counting (script 0) lease with
    ⟨⟨outcome, incomplete, leaves⟩, occupied⟩ | ⟨vacant, walks⟩
  · refine .inl ⟨fails_of_after 1 ?_, occupied⟩
    rw [first]
    exact fails_of_releasing leaves incomplete
  · exact .inr ⟨vacant, first.trans walks⟩

theorem begin_cases (store : Simulation.FaultyStore) (replica : Replica) (mode : Mode)
    (script : Nat → Reply) :
    ((start store replica mode).Fails script ∧ ¬ Admits store mode) ∨
    Admits store mode ∧ ∃ locks lease,
      ((start store replica mode).after script mode.beforeWalk).Walks
        { store with memory := { store.memory with locks } } replica lease
        { client := replica.client } := by
  have locking := store.locking_tryLock mode.lock
  have first : (start store replica mode).after script 1 =
      take (store.tryLock mode.lock).1
        (Cycle.onLock { replica with phase := .acquiring } mode (store.tryLock mode.lock).2) := rfl
  generalize store.tryLock mode.lock = result at locking first
  cases locking with
  | failed fails =>
      refine .inl ⟨fails_of_after 1 ?_, fun admits => nomatch fails.symm.trans admits.lockable⟩
      rw [first]
      exact fails_of_over rfl nofun
  | refused works locked =>
      refine .inl ⟨fails_of_after 1 ?_, fun admits => nomatch locked.symm.trans admits.unlocked⟩
      rw [first]
      exact fails_of_over rfl nofun
  | @taken locks lease works own held =>
      have unlocked : store.memory.locks.isLocked mode.lock = false := own ▸ held.unlocked
      cases mode with
      | refresh =>
          refine .inr ⟨⟨works, unlocked, nofun⟩, locks, lease, ?_⟩
          rw [Mode.beforeWalk, first]
          exact ⟨rfl, rfl, rfl, rfl, rfl⟩
      | seed =>
          have counts : ((start store replica .seed).after script 1).stage =
              .running (.counting lease) := by
            rw [first]
            rfl
          rcases counting_cases (fun place => script (1 + place)) counts with
            ⟨fails, occupied⟩ | ⟨vacant, walks⟩
          · refine .inl ⟨fails_of_after 1 fails, fun admits => occupied ?_⟩
            rw [first]
            exact admits.vacant rfl
          · rw [first] at vacant
            refine .inr ⟨⟨works, unlocked, fun _ => vacant⟩, locks, lease, ?_⟩
            rw [Mode.beforeWalk, after_add _ _ 1 1, walks, first]
            exact ⟨rfl, rfl, rfl, rfl, rfl⟩

/-! The whole cycle. -/

/-- The walk of the cycle that is answered like this. -/
def walk (replica : Replica) (mode : Mode) (script : Nat → Reply) : Nat → Source.Stream :=
  ({ client := replica.client } : Source.Stream).after fun place =>
    (script (mode.beforeWalk + place)).toReply

theorem outcome_cases (store : Simulation.FaultyStore) (replica : Replica) (mode : Mode)
    (script : Nat → Reply) :
    let origin := start store replica mode
    let walk := walk replica mode script
    (origin.Fails script ∧ ¬ (Admits store mode ∧
      (∃ steps failure?, (walk steps).position = .finished failure? ∧
        Suffices replica.policy (walk steps) failure?) ∧
      store.upsertError = none ∧ store.crashes = false)) ∨
    (Admits store mode ∧ store.upsertError = none ∧ store.crashes = false) ∧
      ∃ steps failure? lease, (walk steps).position = .finished failure? ∧
        Suffices replica.policy (walk steps) failure? ∧
        (origin.after script (mode.beforeWalk + steps)).replica.pages = replica.pages ∧
        (origin.after script (mode.beforeWalk + steps)).Completes
          (fun place => script (mode.beforeWalk + steps + place)) lease
          ((Gathered.ofPages (walk steps).yielded).completion failure?.isSome)
          (store.memory.upsert (Gathered.ofPages (walk steps).yielded).kept.rows).1.rows := by
  intro origin walk
  rcases begin_cases store replica mode script with ⟨fails, refused⟩ | ⟨admits, locks, lease, walks⟩
  · exact .inl ⟨fails, fun all => refused all.1⟩
  by_cases ends : ∃ steps failure?, (walk steps).position = .finished failure?
  · -- Cycle and walk keep step until the walk is over for the first time.
    obtain ⟨steps, failure?, finished, goesOn⟩ := Source.Stream.exists_first_finished ends
    have walks' := walks_after walks goesOn
    rw [← after_add] at walks'
    rcases ends_of_finished (fun place => script (mode.beforeWalk + steps + place)) walks' finished
      with ⟨fails, broken⟩ | ⟨⟨suffices', works⟩, completes⟩
    · refine .inl ⟨fails_of_after (mode.beforeWalk + steps) fails, ?_⟩
      -- The walk may suffice at any later time as well, but it is the same there.
      rintro ⟨-, ⟨other, other?, finished', suffices'⟩, works⟩
      have same : walk steps = walk other := Source.Stream.after_unique finished finished'
      rw [← same] at finished' suffices'
      cases finished.symm.trans finished'
      exact broken ⟨suffices', works⟩
    · refine .inr ⟨⟨admits, works⟩, steps, failure?, lease, finished, suffices', ?_, completes⟩
      exact walks'.pages
  · refine .inl ⟨fails_of_after mode.beforeWalk fun steps completion completes => ?_,
      fun all => ends ?_⟩
    · have goesOn (earlier : Nat) (_ : earlier < steps) (failure? : Option SourceError)
          (finished : (walk earlier).position = .finished failure?) : False :=
        ends ⟨earlier, failure?, finished⟩
      cases (walks_after walks goesOn).runs.symm.trans completes
    · obtain ⟨-, ⟨steps, failure?, finished, -⟩, -⟩ := all
      exact ⟨steps, failure?, finished⟩

/-- A cycle completes if and only if it gets its lock, finds the store empty when it is to fill it,
has pages that it may store when the walk ends, and can store them. Then the store holds under each
id the last of the admitted candidates with this id, and is otherwise as before; the cycle returns
how many pages, candidates and ids there were and whether the walk was cut short; and when it has
stored them, the page cache is empty and the time is noted, before it gives up its lock. -/
theorem run_completion (store : Simulation.FaultyStore) (replica : Replica) (mode : Mode)
    (script : Nat → Reply) :
    let origin := start store replica mode
    let walk := walk replica mode script
    ((∃ steps completion, (origin.after script steps).stage = .ended (.completed completion)) ↔
      Admits store mode ∧
      (∃ steps failure?, (walk steps).position = .finished failure? ∧
        Suffices replica.policy (walk steps) failure?) ∧
      store.upsertError = none ∧ store.crashes = false) ∧
    ∀ steps completion, (origin.after script steps).stage = .ended (.completed completion) →
      ∃ ended failure? moment, (walk ended).position = .finished failure? ∧ moment + 1 < steps ∧
        let pages := (walk ended).yielded
        let kept := Candidate.admitted (pages.flatMap SourcePage.results)
        let ingested := origin.after script (moment + 1)
        (∀ id, (origin.after script steps).store.memory.get? id =
          (Batch.lastOf id kept).or (store.memory.get? id)) ∧
        completion =
          { pages := pages.length
            fetched := (pages.map fun page => page.results.length).sum
            kept := (kept.map Character.id).toFinset.card
            upserted := (kept.map Character.id).toFinset.card
            cutShort := failure?.isSome } ∧
        (∃ lease, ingested.stage = .running (.releasing lease (.completed completion))) ∧
        ingested.store.memory.rows = (origin.after script steps).store.memory.rows ∧
        ingested.replica.pages.entries.size = 0 ∧
        ingested.replica.freshness.lastMillis = some (script moment).time.millis := by
  intro origin walk
  rcases outcome_cases store replica mode script with
    ⟨fails, refused⟩ |
      ⟨⟨admits, works⟩, ended, failure?, lease, finished, suffices', pages_eq, completes⟩
  · refine ⟨⟨?_, fun all => absurd all refused⟩, fun steps completion ends => ?_⟩
    · rintro ⟨steps, completion, ends⟩
      exact absurd ends (fails steps completion)
    · exact absurd ends (fails steps completion)
  · generalize moment_eq : mode.beforeWalk + ended = moment at pages_eq completes
    have ends := completes.ends
    rw [← after_add] at ends
    refine ⟨⟨fun _ => ?_, fun _ => ⟨_, _, ends⟩⟩, ?_⟩
    · exact ⟨admits, ⟨ended, failure?, finished, suffices'⟩, works⟩
    intro steps completion ends'
    have same : origin.after script steps = origin.after script (moment + 2) :=
      after_unique (by rw [ends']; rfl) (by rw [ends]; rfl)
    rw [same, ends] at ends'
    cases ends'
    have leaves := completes.leaves
    have keeps := completes.keeps
    rw [← after_add] at leaves keeps
    have later : moment + 1 < steps := lt_of_over leaves (by rw [same, ends]; rfl)
    refine ⟨ended, failure?, moment, finished, later, ?_, ?_, ⟨lease, leaves⟩, ?_, ?_, ?_⟩
    · intro id
      rw [same]
      change (Store.Memory.rows _).get? id = _
      rw [keeps]
      change ((store.memory.upsert _).1.get? id) = _
      rw [Store.Memory.get?_upsert, Batch.lastOf_rows, Gathered.ofPages_eq, Batch.get?_ofList]
    · rw [Gathered.completion, Gathered.ofPages_eq, Batch.size_ofList]
    · rw [same, keeps, after_add]
      exact completes.writes
    · rw [after_add, completes.clears]
      rfl
    · rw [after_add]
      exact completes.notes

/-! A refresh from a source with one page, which has an id twice. -/

def singlePage : SourcePage where
  results :=
    [{ id := 7, species := "Human", status := "Alive", origin := { name := "Earth (C-137)" } },
      { id := 8, species := "Alien", status := "Alive" },
      { id := 7, name := "Rick", species := "Human", status := "Alive",
        origin := { name := "Earth (C-137)" } }]

def singlePageReply : Reply := ⟨⟨⟨0⟩, 0, .ok singlePage⟩, .ofMillis 0⟩

def emptyReplica : Replica where
  client := .new 16 .zero {}
  pages := .new "page" 16 .zero
  freshness := { ttl := .zero }

theorem fetch_emptyReplica :
    ∃ client, emptyReplica.client.fetch 1 ⟨0⟩ = (client, .ask ⟨1, 1⟩) := by
  simp [emptyReplica, Source.Client.fetch, Source.Client.new, Source.Client.ask, Cache.Memo.look,
    Cache.Memo.withEntries, Cache.Memo.new, Cache.Lru.get, Cache.Lru.new, pure, Except.pure]

theorem walk_singlePage :
    (walk emptyReplica .refresh (fun _ => singlePageReply) 3).position = .finished none ∧
      (walk emptyReplica .refresh (fun _ => singlePageReply) 3).yielded = [singlePage] := by
  obtain ⟨client, asks⟩ := fetch_emptyReplica
  have first : walk emptyReplica .refresh (fun _ => singlePageReply) 1 =
      { client, position := .asked {} ⟨1, 1⟩ } := by
    change Source.Stream.proceed _ {} (emptyReplica.client.fetch 1 ⟨0⟩) = _
    rw [asks]
    rfl
  have third : walk emptyReplica .refresh (fun _ => singlePageReply) 3 =
      ((walk emptyReplica .refresh (fun _ => singlePageReply) 1).step
        singlePageReply.toReply).step singlePageReply.toReply := rfl
  rw [third, first]
  exact ⟨rfl, rfl⟩

theorem run_completion_singlePage :
    ∃ steps,
      let attempt := (start {} emptyReplica .refresh).after (fun _ => singlePageReply) steps
      attempt.stage = .ended (.completed ⟨1, 3, 1, 1, false⟩) ∧
        (attempt.store.memory.get? 7).map Character.name = some "Rick" := by
  obtain ⟨finished, yielded⟩ := walk_singlePage
  obtain ⟨completes, facts⟩ :=
    run_completion {} emptyReplica .refresh fun _ => singlePageReply
  obtain ⟨steps, completion, ends⟩ :=
    completes.mpr ⟨⟨rfl, rfl, nofun⟩, ⟨3, none, finished, .inl rfl⟩, rfl, rfl⟩
  obtain ⟨ended, failure?, moment, finished', -, rows, returns, -⟩ := facts steps completion ends
  have same : walk emptyReplica .refresh (fun _ => singlePageReply) ended =
      walk emptyReplica .refresh (fun _ => singlePageReply) 3 :=
    Source.Stream.after_unique finished' finished
  rw [same] at finished'
  cases finished.symm.trans finished'
  rw [same, yielded] at rows returns
  have counts : completion = ⟨1, 3, 1, 1, false⟩ := returns
  refine ⟨steps, counts ▸ ends, ?_⟩
  rw [rows]
  rfl

end Attempt

end Refresh

end Roster
