import Roster.Proofs.Database.Health
import Roster.Proofs.Refresh.Answers
import Roster.Proofs.Refresh.Completion
import Roster.Proofs.Settings
import Roster.Refresh.Effort
import Roster.Startup

namespace Roster.Refresh

/-! Efforts that starve: the lease keeps one session from the pool, and where that is the only one the
cycle waits in vain for another. -/

open Database (Server Fit Outlook Healthy)

/-- First this reply, then those. -/
def Reply.before (reply : Reply) (script : Nat → Reply) : Nat → Reply
  | 0 => reply
  | place + 1 => script place

/-- What a cycle turns to when it has got its lock. -/
def Cycle.opening {L : Type} (lease : L) : Mode → Cycle L
  | .seed => .counting lease
  | .refresh => .walking lease {} {}

namespace Effort

variable {σ : Type}

section Machine

variable (server : Server σ)

def Completes (effort : Effort σ) (script : Nat → Reply) : Prop :=
  ∃ steps completion, (after server effort script steps).step = .ended (.completed completion)

end Machine

variable {server : Server σ} {effort : Effort σ} {script : Nat → Reply}

theorem after_add (steps more : Nat) :
    after server effort script (steps + more) =
      after server (after server effort script steps) (fun place => script (steps + place)) more := by
  induction more with
  | zero => rfl
  | succ more ih =>
      change advance server (after server effort script (steps + more)) _ = _
      rw [ih]
      rfl

theorem after_of_ended {steps : Nat} {outcome : Outcome}
    (ended : (after server effort script steps).step = .ended outcome) (more : Nat) :
    after server effort script (steps + more) = after server effort script steps := by
  induction more with
  | zero => rfl
  | succ more ih =>
      change advance server (after server effort script (steps + more)) _ = _
      rw [ih, advance, ended]

/-- However it ends decides whether it completes. -/
theorem completes_iff {steps : Nat} {outcome : Outcome}
    (ended : (after server effort script steps).step = .ended outcome) :
    effort.Completes server script ↔ ∃ completion, outcome = .completed completion := by
  constructor
  · rintro ⟨other, completion, completes⟩
    refine ⟨completion, ?_⟩
    have same : after server effort script steps = after server effort script other := by
      rcases Nat.le_total steps other with later | later
      · obtain ⟨more, rfl⟩ := Nat.exists_eq_add_of_le later
        exact (after_of_ended ended more).symm
      · obtain ⟨more, rfl⟩ := Nat.exists_eq_add_of_le later
        exact after_of_ended completes more
    rw [← same, ended] at completes
    cases completes
    rfl
  · rintro ⟨completion, rfl⟩
    exact ⟨steps, completion, ended⟩

theorem advance_releasing {lease : Database.Lease} {outcome : Outcome} (reply : Reply)
    (waits : effort.step = .await (.releasing lease outcome)) :
    (advance server effort reply).step = .ended outcome := by
  rw [advance, waits]
  rfl

/-! Efforts that are made when the service comes up. -/

theorem after_succ (steps : Nat) :
    after server effort script (steps + 1) =
      after server (advance server effort (script 0)) (fun place => script (place + 1)) steps := by
  have first : after server effort script 1 = advance server effort (script 0) := rfl
  rw [Nat.add_comm, after_add, first]
  simp only [Nat.add_comm]

theorem advance_respond (world : Startup.World σ) (source : Settings.Source)
    (scene : Cycle.Scene (Database.Store σ)) (cycle : Cycle Database.Lease) :
    ∃ reply : Reply,
      let result := Cycle.respond (Startup.surroundings world source) scene cycle
      advance world.server ⟨scene.state, scene.replica, .await cycle⟩ reply =
        ⟨result.1.state, result.1.replica, result.2⟩ := by
  cases cycle with
  | fetching lease gathered walk fetch =>
      refine ⟨⟨⟨scene.now, 0, Startup.fetch world source fetch.page⟩, scene.time⟩, ?_⟩
      rw [advance, Cycle.respond]
      rfl
  | _ => exact ⟨⟨⟨scene.now, 0, .ok default⟩, scene.time⟩, rfl⟩

/-- A cycle that is carried through without a break is one such effort. -/
theorem after_runFrom (world : Startup.World σ) (source : Settings.Source)
    (scene : Cycle.Scene (Database.Store σ)) (cycle : Cycle Database.Lease) (steps : Nat) :
    ∃ script, ∀ outcome,
      (Cycle.runFrom (Startup.surroundings world source) scene cycle steps).2 = some outcome →
        (after world.server ⟨scene.state, scene.replica, .await cycle⟩ script steps).step =
          .ended outcome := by
  induction steps generalizing scene cycle with
  | zero => exact ⟨fun _ => ⟨⟨scene.now, 0, .ok default⟩, scene.time⟩, nofun⟩
  | succ steps ih =>
      obtain ⟨reply, advances⟩ := advance_respond world source scene cycle
      rw [Cycle.runFrom]
      generalize Cycle.respond (Startup.surroundings world source) scene cycle = result at advances
      obtain ⟨scene', step⟩ := result
      cases step with
      | ended outcome =>
          refine ⟨fun _ => reply, fun other ends => ?_⟩
          cases ends
          have first : after world.server ⟨scene.state, scene.replica, .await cycle⟩
              (fun _ => reply) 1 = _ := advances
          rw [Nat.add_comm, after_of_ended (by rw [first]), first]
      | await cycle' =>
          obtain ⟨script, follows⟩ := ih scene' cycle'
          refine ⟨reply.before script, fun outcome ends => ?_⟩
          rw [after_succ, Reply.before, advances]
          exact follows outcome ends

/-! The walk. -/

/-- The cycle takes its pages from this walk, and the store is left alone. -/
structure Walks (store : Database.Store σ) (lease : Database.Lease) (policy : PartialPolicy)
    (stream : Source.Stream) (effort : Effort σ) : Prop where
  step_eq : effort.step = .await (Cycle.under lease policy stream)
  store_eq : effort.store = store
  client : effort.replica.client = stream.client

variable {store : Database.Store σ} {lease : Database.Lease} {policy : PartialPolicy}
  {stream : Source.Stream}

theorem proceed_eq (lease : Database.Lease) (policy : PartialPolicy) (replica : Replica)
    (walk : Source.Walk) (next : Source.Client × Source.Fetch.Next)
    (sound : ∀ error, (stream.proceed walk next).position ≠ .finished (some error)) :
    Cycle.proceed replica lease (.ofPages stream.yielded) walk next =
      ({ replica with client := (stream.proceed walk next).client },
        .await (Cycle.under lease policy (stream.proceed walk next))) := by
  obtain ⟨client, next⟩ := next
  cases next with
  | ask | pause => rfl
  | done result =>
      cases result with
      | error error => exact absurd rfl (sound error)
      | ok page =>
          have gathers : Cycle.under lease policy (stream.proceed walk (client, .done (.ok page))) =
              .walking lease (.ofPages (stream.yielded ++ [page])) (walk.advance (.ok page)) := rfl
          rw [gathers, Gathered.ofPages_append]
          rfl

theorem walks_advance (walks : effort.Walks store lease policy stream) (reply : Reply)
    (goesOn : ∀ failure?, stream.position ≠ .finished failure?)
    (sound : ∀ error, (stream.step reply.toReply).position ≠ .finished (some error)) :
    (advance server effort reply).Walks store lease policy (stream.step reply.toReply) := by
  rw [advance, walks.step_eq]
  rw [Source.Stream.step] at sound ⊢
  cases stands : stream.position with
  | finished failure? => exact absurd stands (goesOn failure?)
  | ready walk =>
      rw [stands] at sound
      rw [Cycle.under, stands]
      dsimp only at sound ⊢
      cases next : walk.next with
      | none =>
          rw [respond, Cycle.take?, Cycle.onWalk, next]
          exact ⟨rfl, walks.store_eq, walks.client⟩
      | some page =>
          rw [next] at sound
          have goes := proceed_eq lease policy effort.replica walk _ sound
          rw [respond, Cycle.take?, Cycle.onWalk, next]
          dsimp only
          rw [walks.client, goes]
          exact ⟨rfl, walks.store_eq, rfl⟩
  | asked walk fetch =>
      rw [stands] at sound
      have goes := proceed_eq lease policy effort.replica walk _ sound
      rw [Cycle.under, stands]
      dsimp only at goes ⊢
      rw [respond, Cycle.take?, Cycle.onPage, walks.client]
      dsimp only
      rw [goes]
      exact ⟨rfl, walks.store_eq, rfl⟩
  | paused walk fetch span =>
      rw [stands] at sound
      have goes := proceed_eq lease policy effort.replica walk _ sound
      rw [Cycle.under, stands]
      dsimp only at goes ⊢
      rw [respond, Cycle.take?, Cycle.onWake, walks.client]
      dsimp only
      rw [goes]
      exact ⟨rfl, walks.store_eq, rfl⟩

/-- Up to the end of a walk that succeeds, cycle and walk make the same steps. -/
theorem walks_after (walks : effort.Walks store lease policy stream) {steps : Nat}
    (sound : ∀ place error, (stream.after (fun place => (script place).toReply) place).position ≠
      .finished (some error))
    (goesOn : ∀ earlier < steps, ∀ failure?,
      (stream.after (fun place => (script place).toReply) earlier).position ≠ .finished failure?) :
    (after server effort script steps).Walks store lease policy
      (stream.after (fun place => (script place).toReply) steps) := by
  induction steps with
  | zero => exact walks
  | succ steps ih =>
      have before := ih fun earlier before => goesOn earlier (Nat.lt_succ_of_lt before)
      exact walks_advance before (script steps) (goesOn steps (Nat.lt_succ_self steps))
        (sound (steps + 1))

/-! What the database makes of it. -/

variable {outlook : Outlook σ} {capacity : Nat} {session : Database.Session}

theorem storing_ends (script : Nat → Reply) (healthy : Healthy server outlook) {gathered : Gathered} {cutShort : Bool}
    (fit : Fit outlook capacity [session] effort.store)
    (waits : effort.step = .await (.storing lease gathered cutShort)) :
    ∃ outcome, (after server effort script 2).step = .ended outcome ∧
      ((∃ completion, outcome = .completed completion) ↔
        2 ≤ capacity ∨ gathered.kept.rows = []) := by
  have writes := fit.upsert healthy gathered.kept.rows
  have first : after server effort script 1 = advance server effort (script 0) := rfl
  rw [advance, waits] at first
  dsimp only at first
  rw [respond] at first
  generalize effort.store.upsert server gathered.kept.rows = result at writes first
  obtain ⟨store, failure | written⟩ := result
  · refine ⟨_, advance_releasing (script 1) (by rw [first]; rfl),
      iff_of_false ?_ fun enough => ?_⟩
    · rintro ⟨completion, wrong⟩
      cases wrong
    · obtain ⟨written, wrong⟩ := writes.mpr enough
      cases wrong
  · exact ⟨_, advance_releasing (script 1) (by rw [first]; rfl),
      iff_of_true ⟨_, rfl⟩ (writes.mp ⟨written, rfl⟩)⟩

theorem counting_full (script : Nat → Reply) (fit : Fit outlook capacity [session] effort.store) (full : capacity ≤ 1)
    (waits : effort.step = .await (.counting lease)) :
    ∃ kind records, (after server effort script 2).step = .ended (.failed kind records) := by
  obtain ⟨error, counts⟩ := fit.count_of_full server full
  have first : after server effort script 1 = advance server effort (script 0) := rfl
  rw [advance, waits] at first
  dsimp only at first
  rw [respond, counts] at first
  exact ⟨_, _, advance_releasing (script 1) (by rw [first]; rfl)⟩

theorem counting_room (script : Nat → Reply) (healthy : Healthy server outlook)
    (fit : Fit outlook capacity [session] effort.store) (room : 2 ≤ capacity)
    (vacant : outlook.total effort.store.state = 0)
    (waits : effort.step = .await (.counting lease)) (policy : PartialPolicy) :
    ∃ store, Fit outlook capacity [session] store ∧
      (after server effort script 1).Walks store lease policy
        { client := effort.replica.client } := by
  obtain ⟨store, counts, fit'⟩ := fit.count healthy room
  have first : after server effort script 1 = advance server effort (script 0) := rfl
  rw [advance, waits] at first
  dsimp only at first
  rw [respond, counts, vacant] at first
  refine ⟨store, fit', ?_⟩
  rw [first]
  exact ⟨rfl, rfl, rfl⟩

/-- A cycle that finds its lock free has a session of its own from then on. -/
theorem acquires (script : Nat → Reply) (healthy : Healthy server outlook)
    (fit : Fit outlook capacity [] store) (lends : 0 < capacity) (replica : Replica) {mode : Mode}
    (free : outlook.free store.state mode.lock) :
    ∃ session, let held := after server (start store replica mode) script 1
      Fit outlook capacity [session] held.store ∧
      outlook.total held.store.state = outlook.total store.state ∧
      held.replica.client = replica.client ∧
      held.step = .await (.opening ⟨mode.lock, session⟩ mode) := by
  obtain ⟨locked, session, locks, fit', total⟩ := fit.tryLock healthy lends free
  have first : after server (start store replica mode) script 1 =
      advance server (start store replica mode) (script 0) := rfl
  have waits : (start store replica mode).step = .await (.acquiring mode) := rfl
  have store_eq : (start store replica mode).store = store := rfl
  rw [advance, waits, store_eq] at first
  dsimp only at first
  rw [respond, locks] at first
  refine ⟨session, ?_⟩
  rw [first]
  exact ⟨fit', total, rfl, by cases mode <;> rfl⟩

theorem completes_of_walks (healthy : Healthy server outlook)
    (fit : Fit outlook capacity [session] store) {before steps : Nat}
    (walks : (after server effort script before).Walks store lease policy stream)
    {walk : Nat → Source.Stream}
    (walk_eq : walk = stream.after fun place => (script (before + place)).toReply)
    (finished : (walk steps).position = .finished none) :
    effort.Completes server script ↔
      2 ≤ capacity ∨
        Candidate.admitted ((walk steps).yielded.flatMap SourcePage.results) = [] := by
  subst walk_eq
  -- Cycle and walk keep step until the walk is over for the first time.
  obtain ⟨moment, failure?, finished', goesOn⟩ :=
    Source.Stream.exists_first_finished ⟨steps, none, finished⟩
  have sound (place : Nat) (error : SourceError)
      (fails : (stream.after (fun place => (script (before + place)).toReply) place).position =
        .finished (some error)) : False := by
    rw [Source.Stream.after_unique fails finished, finished] at fails
    cases fails
  have walks' : (after server (after server effort script before) _ moment).Walks .. :=
    walks_after walks sound goesOn
  rw [Source.Stream.after_unique finished' finished, ← after_add] at walks'
  have waits := walks'.step_eq
  rw [Cycle.under, finished] at waits
  obtain ⟨outcome, ended, completes⟩ := storing_ends
    (fun place => script (before + moment + place)) healthy (walks'.store_eq.symm ▸ fit) waits
  rw [← after_add] at ended
  rw [completes_iff ended, completes, Gathered.ofPages_eq, Batch.rows_ofList_eq_nil]

theorem completes_of_finished (healthy : Healthy server outlook)
    (fit : Fit outlook capacity [] store) (lends : 0 < capacity) (replica : Replica) (mode : Mode)
    (free : outlook.free store.state mode.lock)
    (vacant : mode = .seed → outlook.total store.state = 0) {steps : Nat}
    (finished : (Attempt.walk replica mode script steps).position = .finished none) :
    (start store replica mode).Completes server script ↔
      2 ≤ capacity ∨ mode = .refresh ∧ Candidate.admitted
        ((Attempt.walk replica mode script steps).yielded.flatMap SourcePage.results) = [] := by
  obtain ⟨session, fit', total, client, waits⟩ := acquires script healthy fit lends replica free
  cases mode with
  | refresh =>
      have walks : (after server (start store replica .refresh) script 1).Walks _ _ replica.policy
          { client := replica.client } := ⟨waits, rfl, client⟩
      rw [completes_of_walks healthy fit' walks rfl finished]
      exact or_congr_right (iff_and_self.mpr fun _ => rfl)
  | seed =>
      by_cases room : 2 ≤ capacity
      · obtain ⟨counted, fit'', walks⟩ := counting_room (fun place => script (1 + place)) healthy
          fit' room (total.trans (vacant rfl)) waits replica.policy
        rw [← after_add, client] at walks
        exact iff_of_true ((completes_of_walks healthy fit'' walks rfl finished).mpr (.inl room))
          (.inl room)
      · obtain ⟨kind, records, ended⟩ :=
          counting_full (fun place => script (1 + place)) fit' (by omega) waits
        rw [← after_add] at ended
        rw [completes_iff ended]
        refine iff_of_false ?_ (not_or.mpr ⟨room, nofun⟩)
        rintro ⟨completion, wrong⟩
        cases wrong

/-- With accepted settings, a database that works, nobody else at its pool, a free lock and a walk
that succeeds, a cycle completes if and only if there are two sessions or more for it, or it is a
refresh that has nothing to write. -/
theorem run_starves {settings : Settings} (valid : settings.validate = .ok ())
    (healthy : Healthy server outlook) (fit : Fit outlook settings.database.maxSize [] store)
    (replica : Replica) (mode : Mode) (free : outlook.free store.state mode.lock)
    (vacant : mode = .seed → outlook.total store.state = 0) {steps : Nat}
    (finished : (Attempt.walk replica mode script steps).position = .finished none) :
    (start store replica mode).Completes server script ↔
      2 ≤ settings.database.maxSize ∨ mode = .refresh ∧ Candidate.admitted
        ((Attempt.walk replica mode script steps).yielded.flatMap SourcePage.results) = [] :=
  completes_of_finished healthy fit (Settings.accepted_of_validate valid).maxSize_pos replica mode
    free vacant finished

/-- A store over an empty database in good health. -/
def emptyStore (capacity : Nat) : Database.Store Simulation.DatabaseServer where
  pool := { capacity }
  state := {}

theorem fit_emptyStore (capacity : Nat) :
    Fit Simulation.DatabaseServer.outlook capacity [] (emptyStore capacity) where
  well := ⟨rfl, rfl, rfl, rfl, nofun⟩
  capacity_eq := rfl
  lent_eq := rfl
  inService := rfl

theorem run_starves_default :
    (start (emptyStore 16) Attempt.emptyReplica .refresh).Completes Simulation.DatabaseServer.server
      fun _ => Attempt.singlePageReply := by
  have valid : ({} : Settings).validate = .ok () := by decide
  exact (run_starves valid Simulation.DatabaseServer.healthy (fit_emptyStore 16) _ .refresh trivial
    nofun Attempt.walk_singlePage.1).mpr (.inl (by decide))

/-- One session is accepted, but it is not enough. -/
theorem run_starves_single :
    let settings : Settings := { database := { maxSize := 1 } }
    let server := Simulation.DatabaseServer.server
    settings.validate = .ok () ∧ Healthy server Simulation.DatabaseServer.outlook ∧
      Fit Simulation.DatabaseServer.outlook settings.database.maxSize [] (emptyStore 1) ∧
      ∀ mode : Mode,
        (Attempt.walk Attempt.emptyReplica mode (fun _ => Attempt.singlePageReply) 3).position =
          .finished none ∧
        ¬ (start (emptyStore 1) Attempt.emptyReplica mode).Completes server
          fun _ => Attempt.singlePageReply := by
  refine ⟨by decide, Simulation.DatabaseServer.healthy, fit_emptyStore 1, fun mode => ?_⟩
  obtain ⟨finished, yielded⟩ :
      (Attempt.walk Attempt.emptyReplica mode (fun _ => Attempt.singlePageReply) 3).position =
        .finished none ∧
      (Attempt.walk Attempt.emptyReplica mode (fun _ => Attempt.singlePageReply) 3).yielded =
        [Attempt.singlePage] := Attempt.walk_singlePage
  refine ⟨finished, fun completes => ?_⟩
  have enough := (completes_of_finished Simulation.DatabaseServer.healthy (fit_emptyStore 1)
    Nat.one_pos _ mode trivial (fun _ => rfl) finished).mp completes
  rw [yielded] at enough
  rcases enough with room | ⟨-, nothing⟩
  · exact absurd room (by decide)
  · exact absurd nothing (by decide)

end Effort

end Roster.Refresh
