import Mathlib.Data.List.Forall2
import Roster.Proofs.Refresh.Attempt
import Roster.Simulation.Cluster

namespace Roster

/-! A member of a cluster that runs a cycle makes an attempt: what it waits for, and what is left of
it when it is cancelled, is the same there and here. -/

namespace Refresh

namespace Cycle

variable {L : Type} (replica : Replica) (lease : L) (gathered : Gathered) (walk : Source.Walk)

theorem policy_onLock (mode : Mode) (answer : Except StoreError (Option L)) :
    (onLock replica mode answer).1.policy = replica.policy := by
  unfold onLock
  split <;> rfl

theorem policy_onCount (answer : Except StoreError Nat) :
    (onCount replica lease answer).1.policy = replica.policy := by
  unfold onCount
  split
  · rfl
  · split <;> rfl

theorem policy_proceed (next : Source.Client × Source.Fetch.Next) :
    (proceed replica lease gathered walk next).1.policy = replica.policy := by
  unfold proceed
  split
  · rfl
  · rfl
  · unfold cutShort
    dsimp only
    split <;> rfl
  · rfl

theorem policy_onWalk (now : Instant) :
    (onWalk replica lease gathered walk now).1.policy = replica.policy := by
  unfold onWalk
  split
  · rfl
  · apply policy_proceed

theorem policy_onUpsert (cutShort : Bool) (answer : Except StoreError Nat) (time : Timestamp) :
    (onUpsert replica lease gathered cutShort answer time).1.policy = replica.policy := by
  cases answer <;> rfl

theorem policy_cancel (cycle : Cycle L) : (cycle.cancel replica).policy = replica.policy := by
  cases cycle <;> rfl

end Cycle

/-- Where an attempt stands whose cycle has made such a step, or none. -/
def Stage.ofStep : Option (Cycle.Step Lease) → Stage
  | none => .stopped
  | some (.await cycle) => .running cycle
  | some (.ended outcome) => .ended outcome

end Refresh

namespace Simulation.Cluster

open Refresh

variable {world : World} {member : Nat} {replica : Replica}

namespace World

/-- Of a replica, what its member has to itself and what it shares. -/
def view (m : Member) (front : Front) : Replica where
  client := m.client
  pages := front.pages
  freshness := front.freshness
  policy := m.policy
  phase := m.phase
  tally := m.tally

theorem replica?_eq_some : world.replica? member = some replica ↔
    ∃ m front, world.members[member]? = some m ∧ world.fronts[m.front]? = some front ∧
      view m front = replica := by
  simp only [replica?, view, Option.bind_eq_bind, Option.bind_eq_some_iff, Option.pure_def,
    Option.some.injEq, exists_and_left]

theorem replica?_put (world : World) (reads : world.replica? member = some replica)
    {after : Replica} (policy : after.policy = replica.policy) :
    (world.put member after).replica? member = some after := by
  obtain ⟨m, front, found, shared, rfl⟩ := replica?_eq_some.mp reads
  have inMembers := (List.getElem?_eq_some_iff.mp found).1
  have inFronts := (List.getElem?_eq_some_iff.mp shared).1
  rw [put, found]
  refine replica?_eq_some.mpr ⟨_, _, List.getElem?_set_self inMembers,
    List.getElem?_set_self inFronts, ?_⟩
  obtain ⟨client, pages, freshness, policy', phase, tally⟩ := after
  cases policy
  rfl

theorem store_put (world : World) (member : Nat) (replica : Replica) :
    (world.put member replica).store = world.store := by
  unfold put
  split <;> rfl

theorem replica?_modifySource {α : Type} (world : World) (fallback : α)
    (change : ScriptedSource → ScriptedSource × α)
    (reads : world.replica? member = some replica) :
    (world.modifySource member fallback change).1.replica? member = some replica := by
  obtain ⟨m, front, found, shared, rfl⟩ := replica?_eq_some.mp reads
  have inMembers := (List.getElem?_eq_some_iff.mp found).1
  rw [modifySource, found]
  exact replica?_eq_some.mpr ⟨_, front, List.getElem?_set_self inMembers, shared, rfl⟩

theorem store_modifySource {α : Type} (world : World) (member : Nat) (fallback : α)
    (change : ScriptedSource → ScriptedSource × α) :
    (world.modifySource member fallback change).1.store = world.store := by
  unfold modifySource
  split <;> rfl

end World

/-- The member's part of the world is what the attempt has. -/
structure Shows (world : World) (member : Nat) (attempt : Attempt) : Prop where
  store_eq : world.store = attempt.store
  reads : world.replica? member = some attempt.replica

theorem shows_take (reads : world.replica? member = some replica) (store : FaultyStore)
    {result : Replica × Cycle.Step Lease} (policy : result.1.policy = replica.policy) :
    Shows (({ world with store } : World).put member result.1) member
        (Attempt.take store result) ∧
      (Attempt.take store result).stage = Stage.ofStep (some result.2) := by
  have put : (({ world with store } : World).put member result.1).replica? member =
      some result.1 :=
    World.replica?_put { world with store } reads policy
  obtain ⟨after, step⟩ := result
  cases step with
  | await => exact ⟨⟨World.store_put .., put⟩, rfl⟩
  | ended => exact ⟨⟨World.store_put .., put⟩, rfl⟩

theorem shows_giveUp (world : World) (reads : world.replica? member = some replica)
    (cycle : Refresh.Cycle Lease) :
    Shows (giveUp world member replica cycle) member
      (Attempt.step ⟨world.store, replica, .running cycle⟩ .stop) := by
  have put := World.replica?_put world reads (Cycle.policy_cancel replica cycle)
  rw [Attempt.step_stop rfl, Attempt.abandon, giveUp]
  cases cycle with
  | acquiring mode => exact ⟨World.store_put .., put⟩
  | _ =>
      refine ⟨?_, put⟩
      dsimp only [Cycle.lease?]
      rw [World.store_put]

theorem shows_begin (reads : world.replica? member = some replica) (mode : Mode) :
    Shows (world.put member (Cycle.start (L := Lease) replica mode).1) member
      (Attempt.start world.store replica mode) :=
  ⟨World.store_put .., World.replica?_put world reads rfl⟩

/-- To begin a wait changes nothing but what the source is asked. -/
theorem shows_beginWait {attempt : Attempt} (shows : Shows world member attempt) (now : Instant)
    (cycle : Refresh.Cycle Lease) : Shows (beginWait world member now cycle).1 member attempt := by
  cases cycle with
  | fetching =>
      refine ⟨?_, World.replica?_modifySource world _ _ shows.reads⟩
      rw [beginWait, World.store_modifySource, shows.store_eq]
  | _ => exact shows

/-- What a member makes of the end of a wait is what its attempt makes of the reply, of which the
time is the world's. -/
theorem shows_endWait (reads : world.replica? member = some replica) (now : Instant)
    (cycle : Refresh.Cycle Lease) :
    ∃ reply : Refresh.Reply, reply.now = now ∧ reply.time = world.time ∧
      let after := Attempt.step ⟨world.store, replica, .running cycle⟩ (.reply reply)
      Shows (endWait world member replica now cycle).1 member after ∧
        after.stage = Stage.ofStep (endWait world member replica now cycle).2 := by
  cases cycle with
  | acquiring mode =>
      refine ⟨⟨⟨now, 0, .ok default⟩, world.time⟩, rfl, rfl, ?_⟩
      exact shows_take reads _ (Cycle.policy_onLock ..)
  | counting lease =>
      refine ⟨⟨⟨now, 0, .ok default⟩, world.time⟩, rfl, rfl, ?_⟩
      exact shows_take reads _ (Cycle.policy_onCount ..)
  | walking lease gathered walk =>
      refine ⟨⟨⟨now, 0, .ok default⟩, world.time⟩, rfl, rfl, ?_⟩
      exact shows_take reads _ (Cycle.policy_onWalk ..)
  | fetching lease gathered walk fetch =>
      have reads' := World.replica?_modifySource world (.error (.unavailable fetch.page 0 ""))
        (fun source => source.answer fetch.page) reads
      have same := World.store_modifySource world member (.error (.unavailable fetch.page 0 ""))
        fun source => source.answer fetch.page
      rw [endWait]
      generalize world.modifySource member _ _ = asked at reads' same
      obtain ⟨asked, answer⟩ := asked
      refine ⟨⟨⟨now, 0, answer⟩, world.time⟩, rfl, rfl, ?_⟩
      rw [Attempt.step_reply rfl, Attempt.advance, ← same]
      exact shows_take reads' _ (Cycle.policy_proceed ..)
  | pausing lease gathered walk fetch span =>
      refine ⟨⟨⟨now, 0, .ok default⟩, world.time⟩, rfl, rfl, ?_⟩
      exact shows_take reads _ (Cycle.policy_proceed ..)
  | storing lease gathered cutShort =>
      refine ⟨⟨⟨now, 0, .ok default⟩, world.time⟩, rfl, rfl, ?_⟩
      rw [Attempt.step_reply rfl, Attempt.advance, endWait]
      dsimp only
      obtain ⟨store, answer⟩ := world.store.upsert gathered.kept.rows
      cases answer with
      | some answer => exact shows_take reads _ (Cycle.policy_onUpsert ..)
      | none =>
          have shows := shows_giveUp { world with store } reads (.storing lease gathered cutShort)
          rw [Attempt.step_stop rfl] at shows
          exact ⟨shows, rfl⟩
  | releasing lease outcome =>
      refine ⟨⟨⟨now, 0, .ok default⟩, world.time⟩, rfl, rfl, ?_⟩
      exact shows_take reads _ rfl

/-! A cycle from its beginning on. The member is woken at some moments, and may be cancelled. -/

/-- Wakes a member at a moment, or cancels what it does. -/
def onward (turn : ClusterTurn) (wake? : Option Instant) : ClusterTurn :=
  match turn.pause, wake? with
  | .suspended _ _ task, some now => resume turn.world now task .due
  | .suspended _ _ task, none => { world := (cancel turn.world task).1, pause := .crashed }
  | _, _ => turn

inductive Meets : Option Instant → Attempt.Event → Prop
  | reply (reply : Refresh.Reply) : Meets (some reply.now) (.reply reply)
  | stop : Meets none .stop

/-- How a member pauses whose attempt has come this far. -/
inductive Rests (member : Nat) : Refresh.Stage → Pause Task Ticket Result → Prop
  | running (cycle : Refresh.Cycle Lease) (due : Instant) :
      Rests member (.running cycle) (.suspended (some due) none ⟨member, .cycle cycle⟩)
  | ended (outcome : Outcome) : Rests member (.ended outcome) (.finished (.outcome outcome))
  | stopped : Rests member .stopped .crashed

structure Follows (turn : ClusterTurn) (member : Nat) (attempt : Attempt) : Prop where
  shows : Shows turn.world member attempt
  rests : Rests member attempt.stage turn.pause

theorem follows_cycleTurn {attempt : Attempt} (shows : Shows world member attempt) (now : Instant)
    (step : Option (Refresh.Cycle.Step Lease)) (stands : attempt.stage = Stage.ofStep step) :
    Follows (cycleTurn world member now .cycle
      (fun world outcome => { world, pause := .finished (.outcome outcome) }) step) member
      attempt := by
  rcases step with _ | cycle | outcome
  · exact ⟨shows, stands ▸ .stopped⟩
  · exact ⟨shows_beginWait shows now cycle, stands ▸ .running cycle _⟩
  · exact ⟨shows, stands ▸ .ended outcome⟩

theorem Follows.onward {turn : ClusterTurn} {attempt : Attempt}
    (follows : Follows turn member attempt) (wake? : Option Instant) :
    ∃ event, Meets wake? event ∧ Follows (onward turn wake?) member (attempt.step event) := by
  obtain ⟨world, mail, pause⟩ := turn
  obtain ⟨store, replica, stage⟩ := attempt
  obtain ⟨⟨store_eq, reads⟩, rests⟩ := follows
  dsimp only at store_eq reads rests
  subst store_eq
  obtain ⟨m, -, found, -⟩ := World.replica?_eq_some.mp reads
  cases rests with
  | running cycle due =>
      cases wake? with
      | some now =>
          obtain ⟨reply, rfl, -, shows, stands⟩ := shows_endWait reads now cycle
          refine ⟨.reply reply, .reply reply, ?_⟩
          dsimp only [Cluster.onward, resume]
          rw [found, reads]
          exact follows_cycleTurn shows reply.now _ stands
      | none =>
          refine ⟨.stop, .stop, ?_⟩
          dsimp only [Cluster.onward, cancel]
          rw [found, reads]
          exact ⟨shows_giveUp world reads cycle, .stopped⟩
  | ended | stopped =>
      -- Nothing changes any more, on either side.
      cases wake? with
      | some now =>
          let reply : Refresh.Reply := ⟨⟨now, 0, .ok default⟩, world.time⟩
          exact ⟨.reply reply, .reply reply, ⟨rfl, reads⟩, by constructor⟩
      | none => exact ⟨.stop, .stop, ⟨rfl, reads⟩, by constructor⟩

theorem Follows.run {turn : ClusterTurn} {attempt : Attempt}
    (follows : Follows turn member attempt) (wakes : List (Option Instant)) :
    ∃ events, List.Forall₂ Meets wakes events ∧
      Follows (wakes.foldl Cluster.onward turn) member (attempt.run events) := by
  induction wakes generalizing turn attempt with
  | nil => exact ⟨[], .nil, follows⟩
  | cons wake? rest ih =>
      obtain ⟨event, meets, follows⟩ := follows.onward wake?
      obtain ⟨events, all, follows⟩ := ih follows
      exact ⟨event :: events, .cons meets all, follows⟩

/-- A member that runs a cycle does what an attempt does that is given a reply, or stopped, whenever
the member is woken or cancelled: it leaves the store and the replica in the same state, and waits,
ends or is gone when the attempt does. -/
theorem run_follows {m : Member} (reads : world.replica? member = some replica) (start : Instant)
    (mode : Mode) (wakes : List (Option Instant)) :
    ∃ events, List.Forall₂ Meets wakes events ∧
      Follows (wakes.foldl Cluster.onward (begin world m member replica start (.cycle mode))) member
        ((Attempt.start world.store replica mode).run events) := by
  have begins : Follows (begin world m member replica start (.cycle mode)) member
      (Attempt.start world.store replica mode) :=
    ⟨shows_beginWait (shows_begin reads mode) start (.acquiring mode), .running (.acquiring mode) _⟩
  exact begins.run wakes

end Simulation.Cluster

end Roster
