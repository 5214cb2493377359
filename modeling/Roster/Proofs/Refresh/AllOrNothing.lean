import Roster.Proofs.Refresh.Attempt

namespace Roster

namespace Refresh

/-! A cycle that does not complete changes nothing. All that a cycle ever changes of the rows, of
the page cache and of the time of the last refresh it changes in one step, by which it completes;
and wherever it ends or is stopped, its lock is free and nothing is marked as in progress. -/

namespace Cycle

variable {L : Type}

/-- Holds a lease and has work to do under it. -/
def Works (lease : L) : Cycle L → Prop
  | acquiring _ => False
  | releasing .. => False
  | cycle => cycle.lease? = some lease

theorem lease_cases (cycle : Cycle L) :
    (∃ mode, cycle = acquiring mode) ∨ (∃ lease outcome, cycle = releasing lease outcome) ∨
      ∃ lease, cycle.Works lease := by
  cases cycle with
  | acquiring mode => exact .inl ⟨mode, rfl⟩
  | releasing lease outcome => exact .inr (.inl ⟨lease, outcome, rfl⟩)
  | _ => exact .inr (.inr ⟨_, rfl⟩)

/-- What a step under a lease leads to, apart from the one that completes the cycle: more work, or
the end of it without a completion. -/
inductive Went (pages : PageCache) (freshness : Freshness) (lease : L) : Replica × Step L → Prop
  | on {after : Replica} {cycle : Cycle L} (works : cycle.Works lease)
      (samePages : after.pages = pages) (sameFreshness : after.freshness = freshness) :
      Went pages freshness lease (after, .await cycle)
  | out {after : Replica} {outcome : Outcome}
      (incomplete : ∀ completion, outcome ≠ .completed completion)
      (samePages : after.pages = pages)
      (idle : after.freshness = freshness.setInProgress false) :
      Went pages freshness lease (after, .await (.releasing lease outcome))

section Steps

variable (replica : Replica) (lease : L) (gathered : Gathered) (walk : Source.Walk)

theorem went_cutShort (error : SourceError) :
    Went replica.pages replica.freshness lease (cutShort replica lease gathered error) := by
  unfold cutShort
  split
  · exact .out nofun rfl rfl
  · exact .on rfl rfl rfl

theorem went_proceed (next : Source.Client × Source.Fetch.Next) :
    Went replica.pages replica.freshness lease (proceed replica lease gathered walk next) := by
  unfold proceed
  split
  · exact .on rfl rfl rfl
  · exact .on rfl rfl rfl
  · exact went_cutShort { replica with client := next.1 } lease gathered _
  · exact .on rfl rfl rfl

theorem went_onCount (answer : Except StoreError Nat) :
    Went replica.pages replica.freshness lease (onCount replica lease answer) := by
  unfold onCount
  split
  · exact .out nofun rfl rfl
  · split
    · exact .out nofun rfl rfl
    · exact .on rfl rfl rfl

theorem went_onWalk (now : Instant) :
    Went replica.pages replica.freshness lease (onWalk replica lease gathered walk now) := by
  unfold onWalk
  split
  · exact .on rfl rfl rfl
  · exact went_proceed replica lease gathered walk _

end Steps

end Cycle

namespace Attempt

/-! Rows, pages and the time of the last refresh. -/

/-- All that outlasts a cycle, the lock and what the replica counts apart. -/
structure Data where
  rows : Batch
  pages : PageCache
  lastMillis : Option Int

def data (attempt : Attempt) : Data where
  rows := attempt.store.memory.rows
  pages := attempt.replica.pages
  lastMillis := attempt.replica.freshness.lastMillis

/-- Has done all that a completed cycle does and is on its way to return this. -/
def Completing (attempt : Attempt) (completion : Completion) : Prop :=
  (∃ lease, attempt.stage = .running (.releasing lease (.completed completion))) ∨
    attempt.stage = .ended (.completed completion)

/-- A step that writes what was gathered, empties the page cache, notes the time, and completes. -/
structure Ingests (attempt : Attempt) (reply : Reply) (completion : Completion) : Prop where
  stores : ∃ lease gathered cutShort,
    attempt.stage = .running (.storing lease gathered cutShort) ∧
      (attempt.step (.reply reply)).data =
        { rows := (attempt.store.memory.upsert gathered.kept.rows).1.rows
          pages := attempt.replica.pages.clear
          lastMillis := some reply.time.millis }
  completes : (attempt.step (.reply reply)).Completing completion

/-- Nothing of the data is changed in a run but by others. -/
def Untouched (attempt : Attempt) : List Event → Prop
  | [] => True
  | event :: rest =>
    (event.isForeign ∨ (attempt.step event).data = attempt.data) ∧
      (attempt.step event).Untouched rest

variable {attempt : Attempt} {event : Event}

theorem data_take {store : Simulation.FaultyStore} {pages : PageCache} {freshness : Freshness}
    {lease : Lease} {result : Replica × Cycle.Step Lease}
    (went : Cycle.Went pages freshness lease result) :
    (take store result).data = ⟨store.memory.rows, pages, freshness.lastMillis⟩ ∧
      ∀ completion, ¬ (take store result).Completing completion := by
  cases went with
  | on works samePages sameFreshness =>
      subst samePages sameFreshness
      refine ⟨rfl, ?_⟩
      rintro completion (⟨lease, stands⟩ | ends)
      · cases stands
        exact works
      · cases ends
  | out incomplete samePages idle =>
      subst samePages
      refine ⟨by rw [data, take, idle]; rfl, ?_⟩
      rintro completion (⟨lease, stands⟩ | ends)
      · cases stands
        exact incomplete completion rfl
      · cases ends

theorem data_acquiring (attempt : Attempt) (reply : Reply) (mode : Mode) :
    (attempt.advance reply (.acquiring mode)).data = attempt.data ∧
      ∀ completion, ¬ (attempt.advance reply (.acquiring mode)).Completing completion := by
  have locking := attempt.store.locking_tryLock mode.lock
  rw [advance]
  generalize attempt.store.tryLock mode.lock = result at locking
  cases locking with
  | failed | refused =>
      refine ⟨rfl, ?_⟩
      rintro completion (⟨lease, stands⟩ | ends)
      · cases stands
      · cases ends
  | taken =>
      refine ⟨rfl, ?_⟩
      rintro completion (⟨lease, stands⟩ | ends)
      · cases mode <;> cases stands
      · cases ends

theorem data_abandon (attempt : Attempt) (cycle : Cycle Lease) :
    (attempt.abandon cycle).data = attempt.data := by
  cases cycle <;> simp [data, abandon, Cycle.lease?, Cycle.cancel, Freshness.setInProgress,
    Simulation.FaultyStore.free]

/-- What a step under a lease can do to the store and to the replica. -/
inductive Advanced (attempt : Attempt) (reply : Reply) (lease : Lease) (cycle : Cycle Lease) :
    Attempt → Prop
  | went {store : Simulation.FaultyStore} {result : Replica × Cycle.Step Lease}
      (memory : store.memory = attempt.store.memory)
      (went : Cycle.Went attempt.replica.pages attempt.replica.freshness lease result) :
      Advanced attempt reply lease cycle (take store result)
  | crashed : Advanced attempt reply lease cycle (attempt.abandon cycle)
  | ingested {store : Simulation.FaultyStore} {gathered : Gathered} {cutShort : Bool}
      (stores : cycle = .storing lease gathered cutShort)
      (memory : store.memory = (attempt.store.memory.upsert gathered.kept.rows).1) :
      Advanced attempt reply lease cycle
        (take store (Cycle.onUpsert attempt.replica lease gathered cutShort
          (.ok (attempt.store.memory.upsert gathered.kept.rows).2) reply.time))

theorem advanced (attempt : Attempt) (reply : Reply) {lease : Lease} {cycle : Cycle Lease}
    (works : cycle.Works lease) :
    attempt.Advanced reply lease cycle (attempt.advance reply cycle) := by
  cases cycle with
  | acquiring | releasing => exact works.elim
  | counting =>
      cases works
      exact .went rfl (Cycle.went_onCount ..)
  | walking =>
      cases works
      exact .went rfl (Cycle.went_onWalk ..)
  | fetching _ gathered walk fetch =>
      cases works
      exact .went rfl (Cycle.went_proceed attempt.replica lease gathered walk _)
  | pausing _ gathered walk fetch =>
      cases works
      exact .went rfl (Cycle.went_proceed attempt.replica lease gathered walk
        (attempt.replica.client.ask fetch))
  | storing lease gathered cutShort =>
      cases works
      have written := attempt.store.written_upsert gathered.kept.rows
      rw [advance]
      generalize attempt.store.upsert gathered.kept.rows = result at written
      cases written with
      | crashed => exact .crashed
      | failed _ memory => exact .went memory (.out nofun rfl rfl)
      | done _ _ memory => exact .ingested rfl memory

/-- The data changes in one kind of step only, and no other completes a cycle. -/
theorem advance_cases (attempt : Attempt) (reply : Reply) {cycle : Cycle Lease}
    (runs : attempt.stage = .running cycle) :
    ((attempt.advance reply cycle).data = attempt.data ∧
      ∀ completion, (attempt.advance reply cycle).Completing completion →
        attempt.Completing completion) ∨
    ∃ completion, attempt.Ingests reply completion := by
  rcases cycle.lease_cases with ⟨mode, rfl⟩ | ⟨lease, outcome, rfl⟩ | ⟨lease, works⟩
  · obtain ⟨same, incomplete⟩ := attempt.data_acquiring reply mode
    exact .inl ⟨same, fun completion done => absurd done (incomplete completion)⟩
  · refine .inl ⟨rfl, ?_⟩
    rintro completion (⟨lease, stands⟩ | ends)
    · cases stands
    · cases ends
      exact .inl ⟨lease, runs⟩
  · have step_eq := step_reply runs reply
    have advanced := attempt.advanced reply works
    generalize attempt.advance reply cycle = after at advanced step_eq
    cases advanced with
    | went memory went =>
        obtain ⟨same, incomplete⟩ := data_take went
        refine .inl ⟨by rw [same, memory]; rfl, fun completion done => ?_⟩
        exact absurd done (incomplete completion)
    | crashed =>
        refine .inl ⟨data_abandon attempt cycle, ?_⟩
        rintro completion (⟨lease, stands⟩ | ends)
        · cases stands
        · cases ends
    | @ingested store gathered cutShort stores memory =>
        subst stores
        let completion : Completion :=
          { pages := gathered.pages
            fetched := gathered.fetched
            kept := gathered.kept.size
            upserted := (attempt.store.memory.upsert gathered.kept.rows).2
            cutShort }
        refine .inr ⟨completion, ⟨lease, gathered, cutShort, runs, ?_⟩, ?_⟩
        · rw [step_eq, ← memory]
          rfl
        · rw [step_eq]
          exact .inl ⟨lease, rfl⟩

theorem step_cases (attempt : Attempt) (event : Event) :
    ((event.isForeign ∨ (attempt.step event).data = attempt.data) ∧
      ∀ completion, (attempt.step event).Completing completion →
        attempt.Completing completion) ∨
    ∃ reply completion, event = .reply reply ∧ attempt.Ingests reply completion := by
  cases stands : attempt.stage with
  | ended | stopped =>
      obtain ⟨sameStage, same⟩ := step_of_over (by rw [stands]; rfl) event
      refine .inl ⟨same.imp_right fun same => by rw [same], fun completion done => ?_⟩
      rwa [Completing, sameStage] at done
  | running cycle =>
      cases event with
      | meanwhile => exact .inl ⟨.inl rfl, fun _ done => done⟩
      | reply reply =>
          have step_eq := step_reply stands reply
          rcases attempt.advance_cases reply stands with
            ⟨same, older⟩ | ⟨completion, ingests⟩
          · exact .inl ⟨.inr (step_eq ▸ same), step_eq ▸ older⟩
          · exact .inr ⟨reply, completion, rfl, ingests⟩
      | stop =>
          rw [step_stop stands]
          refine .inl ⟨.inr (data_abandon attempt cycle), ?_⟩
          rintro completion (⟨lease, stands⟩ | ends)
          · cases stands
          · cases ends

/-- Nothing is left to do but to give up the lock, if that. -/
def Late (attempt : Attempt) (completion : Completion) : Prop :=
  attempt.Completing completion ∨ attempt.stage = .stopped

theorem Late.step {completion : Completion} (late : attempt.Late completion) (event : Event) :
    (event.isForeign ∨ (attempt.step event).data = attempt.data) ∧
      (attempt.step event).Late completion := by
  rcases late with (⟨lease, runs⟩ | ended) | stopped
  · cases event with
    | meanwhile => exact ⟨.inl rfl, .inl (.inl ⟨lease, runs⟩)⟩
    | reply reply =>
        rw [step_reply runs]
        exact ⟨.inr rfl, .inl (.inr rfl)⟩
    | stop =>
        rw [step_stop runs]
        exact ⟨.inr rfl, .inr rfl⟩
  · obtain ⟨sameStage, same⟩ := step_of_over (by rw [ended]; rfl) event
    exact ⟨same.imp_right fun same => by rw [same], .inl (.inr (sameStage.trans ended))⟩
  · obtain ⟨sameStage, same⟩ := step_of_over (by rw [stopped]; rfl) event
    exact ⟨same.imp_right fun same => by rw [same], .inr (sameStage.trans stopped)⟩

theorem Late.run {completion : Completion} (late : attempt.Late completion) (events : List Event) :
    attempt.Untouched events ∧ (attempt.run events).Late completion := by
  induction events generalizing attempt with
  | nil => exact ⟨trivial, late⟩
  | cons event rest ih =>
      obtain ⟨same, late'⟩ := late.step event
      exact ⟨⟨same, (ih late').1⟩, (ih late').2⟩

/-- Either nothing is changed and nothing completed, or all is changed at one time, after which the
cycle can only complete or be stopped. -/
theorem run_cases (attempt : Attempt) (early : ∀ completion, ¬ attempt.Completing completion)
    (events : List Event) :
    (attempt.Untouched events ∧ ∀ completion, ¬ (attempt.run events).Completing completion) ∨
    ∃ before reply after completion, events = before ++ .reply reply :: after ∧
      attempt.Untouched before ∧ (attempt.run before).Ingests reply completion ∧
      ((attempt.run before).step (.reply reply)).Untouched after ∧
      (attempt.run events).Late completion := by
  induction events generalizing attempt with
  | nil => exact .inl ⟨trivial, early⟩
  | cons event rest ih =>
      rcases attempt.step_cases event with ⟨same, older⟩ | ⟨reply, completion, rfl, ingests⟩
      · have early' (completion) (done : (attempt.step event).Completing completion) : False :=
          early completion (older completion done)
        rcases ih (attempt.step event) early' with
          ⟨untouched, incomplete⟩ | ⟨before, reply, after, completion, rfl, untouched, rest⟩
        · exact .inl ⟨⟨same, untouched⟩, incomplete⟩
        · exact .inr ⟨event :: before, reply, after, completion, rfl, ⟨same, untouched⟩, rest⟩
      · obtain ⟨untouched, late⟩ := Late.run (.inl ingests.completes) rest
        exact .inr ⟨[], reply, rest, completion, rfl, trivial, ingests, untouched, late⟩

/-! The lock and the mark of progress. -/

/-- Whoever waits for the lock, holds it, or is done with it, by what that means for the locks and
for the mark of progress. -/
inductive Kept (locks : LockTable) (marked : Bool) (attempt : Attempt) : Prop
  | asking {mode : Mode} (runs : attempt.stage = .running (.acquiring mode))
      (same : attempt.store.memory.locks = locks)
      (mark : attempt.replica.freshness.inProgress = marked)
  | working {cycle : Cycle Lease} {lease : Lease} (runs : attempt.stage = .running cycle)
      (works : cycle.Works lease) (held : LockTable.Held locks lease attempt.store.memory.locks)
  | leaving {lease : Lease} {outcome : Outcome}
      (runs : attempt.stage = .running (.releasing lease outcome))
      (held : LockTable.Held locks lease attempt.store.memory.locks)
      (idle : attempt.replica.freshness.inProgress = false)
  | finished (ends : attempt.stage.isOver)
      (same : attempt.store.memory.locks.holders = locks.holders)
      (mark : attempt.replica.freshness.inProgress → marked)

theorem kept_abandon {locks : LockTable} {marked : Bool} {cycle : Cycle Lease} {lease : Lease}
    (works : cycle.Works lease) (held : LockTable.Held locks lease attempt.store.memory.locks) :
    (attempt.abandon cycle).Kept locks marked := by
  cases cycle with
  | acquiring | releasing => exact works.elim
  | _ =>
      cases works
      exact .finished rfl held.holders_free nofun

theorem kept_onLock {locks : LockTable} {marked : Bool} {mode : Mode} (reply : Reply)
    (same : attempt.store.memory.locks = locks)
    (mark : attempt.replica.freshness.inProgress = marked) :
    (attempt.advance reply (.acquiring mode)).Kept locks marked := by
  subst same mark
  have locking := attempt.store.locking_tryLock mode.lock
  rw [advance]
  generalize attempt.store.tryLock mode.lock = result at locking
  cases locking with
  | failed => exact .finished rfl rfl id
  | refused => exact .finished rfl rfl id
  | taken _ _ held => cases mode <;> exact .working rfl rfl held

theorem Kept.step {locks : LockTable} {marked : Bool} (kept : attempt.Kept locks marked)
    (event : Event) : (attempt.step event).Kept locks marked := by
  cases kept with
  | asking runs same mark =>
      cases event with
      | meanwhile => exact .asking runs same mark
      | stop =>
          rw [step_stop runs]
          exact .finished rfl (by rw [← same]; rfl) fun marks => mark ▸ marks
      | reply reply =>
          rw [step_reply runs]
          exact kept_onLock reply same mark
  | working runs works held =>
      cases event with
      | meanwhile => exact .working runs works held
      | stop =>
          rw [step_stop runs]
          exact kept_abandon works held
      | reply reply =>
          rw [step_reply runs]
          have advanced := attempt.advanced reply works
          generalize attempt.advance reply _ = after at advanced
          cases advanced with
          | went memory went =>
              cases went with
              | on works => exact .working rfl works (memory ▸ held)
              | out incomplete samePages idle =>
                  exact .leaving rfl (memory ▸ held) (congrArg Freshness.inProgress idle)
          | crashed => exact kept_abandon works held
          | ingested stores memory => exact .leaving rfl (memory ▸ held) rfl
  | leaving runs held idle =>
      cases event with
      | meanwhile => exact .leaving runs held idle
      | stop =>
          rw [step_stop runs]
          exact .finished rfl held.holders_free fun marks => nomatch idle.symm.trans marks
      | reply reply =>
          rw [step_reply runs]
          exact .finished rfl held.holders_free fun marks => nomatch idle.symm.trans marks
  | finished ends same mark =>
      rcases (step_of_over ends event).2 with foreign | unchanged
      · cases event with
        | meanwhile => exact .finished ends same mark
        | _ => cases foreign
      · rw [unchanged]
        exact .finished ends same mark

theorem Kept.run {locks : LockTable} {marked : Bool} (kept : attempt.Kept locks marked)
    (events : List Event) : (attempt.run events).Kept locks marked := by
  induction events generalizing attempt with
  | nil => exact kept
  | cons event rest ih => exact ih (kept.step event)

/-- Whatever the store and the source answer and wherever a cycle is stopped, either it has changed
nothing of the rows, the page cache and the time of the last refresh and has not completed, or it
has changed all of them in one step, and after that it can only complete or be stopped. Once it is
over its lock is free again and it is not in progress. -/
theorem run_all_or_nothing (store : Simulation.FaultyStore) (replica : Replica) (mode : Mode)
    (events : List Event) :
    let origin := start store replica mode
    let attempt := origin.run events
    ((origin.Untouched events ∧ ∀ completion, ¬ attempt.Completing completion) ∨
      ∃ before reply after completion, events = before ++ .reply reply :: after ∧
        origin.Untouched before ∧ (origin.run before).Ingests reply completion ∧
        ((origin.run before).step (.reply reply)).Untouched after ∧
        (attempt.Completing completion ∨ attempt.stage = .stopped)) ∧
    (attempt.stage.isOver →
      attempt.store.memory.locks.holders = store.memory.locks.holders ∧
      (attempt.replica.freshness.inProgress → replica.freshness.inProgress)) := by
  intro origin attempt
  refine ⟨origin.run_cases ?_ events, fun ends => ?_⟩
  · rintro completion (⟨lease, stands⟩ | ends)
    · cases stands
    · cases ends
  · have asks : origin.Kept store.memory.locks replica.freshness.inProgress :=
      .asking rfl rfl rfl
    cases asks.run events with
    | asking runs | working runs | leaving runs =>
        rw [runs] at ends
        cases ends
    | finished _ same mark => exact ⟨same, mark⟩

/-- A cycle that is stopped once it holds the lock. -/
theorem run_all_or_nothing_stopped :
    let replica : Replica :=
      { client := .new 0 .zero {}, pages := .new "page" 0 .zero, freshness := { ttl := .zero } }
    let reply : Reply := ⟨⟨⟨0⟩, 0, .ok {}⟩, .ofMillis 0⟩
    let attempt := (start {} replica .refresh).run [.reply reply, .stop]
    attempt.stage.isOver ∧ attempt.store.memory.locks.holders = [] ∧
      (attempt.replica.freshness.inProgress → false) := by
  intro replica reply attempt
  have ends : attempt.stage.isOver := rfl
  exact ⟨ends, (run_all_or_nothing {} replica .refresh [.reply reply, .stop]).2 ends⟩

end Attempt

end Refresh

end Roster
