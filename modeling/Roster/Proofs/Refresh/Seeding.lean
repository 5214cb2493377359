import Roster.Proofs.Refresh.Completion
import Roster.Proofs.Refresh.Exclusion

namespace Roster.Refresh

/-! A seed that has found the store empty walks through the whole source before it writes. Its lock
keeps other seeds from writing meanwhile. Refreshes have a lock of their own, so nothing keeps them
from it. -/

/-- Has begun to walk through the source, and has not written yet. -/
def Cycle.Gathers {L : Type} : Cycle L → Prop
  | walking .. => True
  | fetching .. => True
  | pausing .. => True
  | storing .. => True
  | _ => False

def Stage.Gathers : Stage → Prop
  | running cycle => cycle.Gathers
  | _ => False

namespace Attempt

variable {attempt : Attempt} {cycle : Cycle Lease} {reply : Reply}

theorem not_gathers_of_completing {completion : Completion}
    (completing : attempt.Completing completion) : ¬ attempt.stage.Gathers := by
  rcases completing with ⟨lease, runs⟩ | ended
  · rw [runs]
    exact id
  · rw [ended]
    exact id

/-- A walk goes on, or it is that of a refresh that begins, or there are no rows. -/
theorem gathers_cases (gathers : (attempt.advance reply cycle).stage.Gathers) :
    cycle.Gathers ∨ cycle = .acquiring .refresh ∨ attempt.store.memory.rows = ∅ := by
  cases cycle with
  | walking | fetching | pausing | storing => exact .inl trivial
  | releasing => exact gathers.elim
  | acquiring mode =>
      have locking := attempt.store.locking_tryLock mode.lock
      change (take (attempt.store.tryLock mode.lock).1
        (Cycle.onLock attempt.replica mode (attempt.store.tryLock mode.lock).2)).stage.Gathers
          at gathers
      generalize attempt.store.tryLock mode.lock = result at locking gathers
      cases locking with
      | failed | refused => exact gathers.elim
      | taken =>
          cases mode with
          | refresh => exact .inr (.inl rfl)
          | seed => exact gathers.elim
  | counting lease =>
      rcases attempt.advance_counting reply lease with ⟨⟨outcome, -, leaves⟩, -⟩ | ⟨⟨-, none⟩, -⟩
      · rw [leaves] at gathers
        exact gathers.elim
      · exact .inr (.inr (Batch.eq_empty_of_size none))

end Attempt

namespace Fleet

variable {fleet : Fleet} {errand : Errand} {id : Nat}

/-- No rows are stored while a seed gathers some. -/
def Vacant (fleet : Fleet) : Prop :=
  ∀ errand ∈ fleet.errands, errand.mode = .seed → errand.stage.Gathers →
    fleet.store.memory.rows = ∅

/-- The rows are changed, and not by a seed. -/
def Intrudes (fleet : Fleet) (event : Event) : Prop :=
  (fleet.step event).store.memory.rows ≠ fleet.store.memory.rows ∧
    ∀ (id : Nat) (reply : Reply) (errand : Errand), event = .reply id reply →
      fleet.errands[id]? = some errand → errand.mode = .refresh

/-- Nobody but seeds changes the rows while a seed gathers some. -/
def Undisturbed (fleet : Fleet) : List Event → Prop
  | [] => True
  | event :: rest =>
    (∀ errand ∈ fleet.errands, errand.mode = .seed → errand.stage.Gathers →
      ¬ fleet.Intrudes event) ∧ (fleet.step event).Undisturbed rest

theorem holds_of_gathers (gathers : errand.stage.Gathers) : errand.Holds := by
  rw [Errand.Holds]
  cases stands : errand.stage with
  | running cycle =>
      rw [stands] at gathers
      cases cycle with
      | acquiring | counting | releasing => exact gathers.elim
      | walking | fetching | pausing | storing => rfl
  | ended | stopped =>
      rw [stands] at gathers
      exact gathers.elim

namespace Vacant

variable {refused : Nat → Prop} {cycle : Cycle Lease}

/-- A cycle is answered. -/
theorem reply (vacant : fleet.Vacant) (guarded : fleet.Guarded refused)
    (found : fleet.errands[id]? = some errand) (runs : errand.stage = .running cycle)
    (answer : Reply)
    (calm : ∀ other ∈ fleet.errands, other.mode = .seed → other.stage.Gathers →
      ¬ fleet.Intrudes (.reply id answer)) :
    (fleet.put id errand ((fleet.attempt errand).step (.reply answer))).Vacant := by
  have member := List.mem_of_getElem? found
  have acts : fleet.step (.reply id answer) =
      fleet.put id errand ((fleet.attempt errand).step (.reply answer)) := by
    rw [step, act, found]
  have runs' : (fleet.attempt errand).stage = .running cycle := runs
  have cases := (fleet.attempt errand).advance_cases answer runs'
  rw [← Attempt.step_reply runs'] at cases
  intro other listed seed gathers
  obtain ⟨place, listed⟩ := List.mem_iff_getElem?.mp listed
  rcases found_put listed with ⟨-, rfl⟩ | ⟨apart, known⟩
  · -- The seed is the cycle itself: it goes on, or has just counted.
    have same : ((fleet.attempt errand).step (.reply answer)).store.memory.rows =
        fleet.store.memory.rows := by
      rcases cases with ⟨same, -⟩ | ⟨completion, ingests⟩
      · exact congrArg Attempt.Data.rows same
      · exact absurd gathers (Attempt.not_gathers_of_completing ingests.completes)
    change ((fleet.attempt errand).step (.reply answer)).stage.Gathers at gathers
    rw [Attempt.step_reply runs'] at gathers
    refine same.trans ?_
    rcases Attempt.gathers_cases gathers with earlier | rfl | none
    · exact vacant errand member seed (by rw [runs]; exact earlier)
    · have accounts := guarded.accounts id errand found
      rw [Errand.Accounts, runs] at accounts
      cases accounts.1.trans seed
    · exact none
  · -- The seed is another cycle: this one is no seed that writes, for it would hold the same lock.
    have listed' := List.mem_of_getElem? known
    have none := vacant other listed' seed gathers
    change ((fleet.attempt errand).step (.reply answer)).store.memory.rows = ∅
    rcases cases with ⟨same, -⟩ | ⟨completion, ⟨lease, gathered, cutShort, stores, -⟩, -⟩
    · exact (congrArg Attempt.Data.rows same).trans none
    · have stores' : errand.stage = .running (.storing lease gathered cutShort) := stores
      by_contra occupied
      refine calm other listed' seed gathers ⟨?_, ?_⟩
      · rw [acts, none]
        exact occupied
      · intro _ _ writer same found'
        cases same
        cases found.symm.trans found'
        cases mode : errand.mode with
        | refresh => rfl
        | seed =>
            have holds : errand.Holds := holds_of_gathers (by rw [stores']; trivial)
            exact absurd (guarded.exclusive known found (holds_of_gathers gathers) holds
              (by rw [seed, mode])) apart

theorem step (vacant : fleet.Vacant) (guarded : fleet.Guarded refused) (event : Event)
    (calm : ∀ errand ∈ fleet.errands, errand.mode = .seed → errand.stage.Gathers →
      ¬ fleet.Intrudes event) : (fleet.step event).Vacant := by
  cases event with
  | share => exact vacant
  | disturb => exact vacant
  | begin place mode =>
      intro errand listed seed gathers
      rcases List.mem_append.mp listed with old | new
      · exact vacant errand old seed gathers
      · cases List.mem_singleton.mp new
        exact gathers.elim
  | write characters =>
      intro errand listed seed gathers
      by_contra occupied
      refine calm errand listed seed gathers ⟨?_, fun _ _ _ same => nomatch same⟩
      rw [vacant errand listed seed gathers]
      exact occupied
  | reply id answer =>
      have own : (Attempt.Event.reply answer).isForeign = false := rfl
      rcases fleet.act_cases id own with same | ⟨errand, cycle, found, runs, acts⟩
      · rw [Fleet.step, same]
        exact vacant
      · have vacant' := vacant.reply guarded found runs answer calm
        rwa [← acts] at vacant'
  | stop id =>
      have own : Attempt.Event.stop.isForeign = false := rfl
      rcases fleet.act_cases id own with same | ⟨errand, cycle, found, runs, acts⟩
      · rw [Fleet.step, same]
        exact vacant
      · have runs' : (fleet.attempt errand).stage = .running cycle := runs
        rw [Fleet.step, acts, Attempt.step_stop runs']
        intro other listed seed gathers
        obtain ⟨place, listed⟩ := List.mem_iff_getElem?.mp listed
        rcases found_put listed with ⟨-, rfl⟩ | ⟨-, known⟩
        · exact gathers.elim
        · have none := vacant other (List.mem_of_getElem? known) seed gathers
          exact (congrArg Attempt.Data.rows (Attempt.data_abandon _ cycle)).trans none

theorem run (vacant : fleet.Vacant) (guarded : fleet.Guarded fun _ => True) {events : List Event}
    (undisturbed : fleet.Undisturbed events) : (fleet.run events).Vacant := by
  induction events generalizing fleet with
  | nil => exact vacant
  | cons event rest ih =>
      have vacant' := vacant.step guarded event undisturbed.1
      have guarded' := guarded.step event (fun _ known => known) fun _ _ _ _ => trivial
      exact ih vacant' guarded' undisturbed.2

end Vacant

/-- However many coordinators run seeds and refreshes over one store: as long as no refresh writes
between a seed's count and its upsert, a seed that comes to its upsert finds the store empty. -/
theorem run_seeds (store : Simulation.FaultyStore) (coordinators : Nat → Replica)
    (events : List Event) (undisturbed : (start store coordinators).Undisturbed events)
    (errand : Errand) (listed : errand ∈ ((start store coordinators).run events).errands)
    (seed : errand.mode = .seed) (lease : Lease) (gathered : Gathered) (cutShort : Bool)
    (stores : errand.stage = .running (.storing lease gathered cutShort)) :
    let fleet := (start store coordinators).run events
    fleet.store.memory.count = 0 ∧ ∀ id, fleet.store.memory.get? id = none := by
  intro fleet
  have gathers : errand.stage.Gathers := by
    rw [stores]
    trivial
  have started : (start store coordinators).Vacant := fun _ listed => nomatch listed
  have kept : fleet.Vacant := started.run (.start store coordinators _) undisturbed
  have vacant := kept errand listed seed gathers
  rw [Store.Memory.count, vacant]
  refine ⟨rfl, fun id => ?_⟩
  rw [Store.Memory.get?, vacant]
  exact Batch.get?_empty id

/-- To reply to a seed disturbs none. -/
theorem undisturbed_replies (found : fleet.errands[id]? = some errand) (seed : errand.mode = .seed)
    (replies : List Reply) : fleet.Undisturbed (replies.map (.reply id)) := by
  induction replies generalizing fleet errand with
  | nil => trivial
  | cons reply rest ih =>
      constructor
      · rintro _ _ _ _ ⟨-, writer⟩
        cases seed.symm.trans (writer id reply errand rfl found)
      · obtain ⟨found', -⟩ := attempt_put found ((fleet.attempt errand).step (.reply reply))
        change (fleet.act id (.reply reply)).Undisturbed _
        rw [act, found]
        exact ih found' seed

/-! Two coordinators with a source of one page. -/

open Attempt (emptyReplica fetch_emptyReplica)

def rickPage (name : String) : SourcePage where
  results :=
    [{ id := 7, name, species := "Human", status := "Alive",
       origin := { name := "Earth (C-137)" } }]

def rickReply (name : String) : Reply := ⟨⟨⟨0⟩, 0, .ok (rickPage name)⟩, .ofMillis 0⟩

/-- A walk through a source of one page takes three replies. -/
theorem run_rickPage {lease : Lease} (found : fleet.errands[id]? = some errand)
    (walks : errand.stage = .running (.walking lease {} {}))
    (fresh : (fleet.coordinators errand.coordinator).client = emptyReplica.client)
    (name : String) :
    ∃ replica asked, fleet.run (List.replicate 3 (.reply id (rickReply name))) =
      { store := fleet.store
        coordinators := Function.update fleet.coordinators errand.coordinator replica
        errands := fleet.errands.set id { errand with
          stage := .running (.storing lease (Gathered.add {} (rickPage name)) false)
          asked } } := by
  obtain ⟨client, asks⟩ := fetch_emptyReplica
  obtain ⟨asked, runs⟩ := run_replies found (List.replicate 3 (rickReply name))
  have walks' : (fleet.attempt errand).stage = .running (.walking lease {} {}) := walks
  have fetches : (fleet.attempt errand).step (.reply (rickReply name)) =
      { store := fleet.store
        replica := { fleet.coordinators errand.coordinator with client }
        stage := .running (.fetching lease {} {} ⟨1, 1⟩) } := by
    rw [Attempt.step_reply walks']
    change Attempt.take _ (Cycle.proceed _ lease {} {}
      ((fleet.coordinators errand.coordinator).client.fetch 1 ⟨0⟩)) = _
    rw [fresh, asks]
    rfl
  have gathers (after : Attempt) (same : after = (fleet.attempt errand).run
      ((List.replicate 3 (rickReply name)).map .reply)) : after.store = fleet.store ∧
        after.stage =
          .running (.storing lease (Gathered.add {} (rickPage name)) false) := by
    change after = Attempt.run ((fleet.attempt errand).step _) _ at same
    rw [same, fetches]
    exact ⟨rfl, rfl⟩
  obtain ⟨store, stage⟩ := gathers _ rfl
  rw [store, stage] at runs
  exact ⟨_, asked, runs⟩

/-- A seed is served up to its upsert while a refresh stands before its walk. -/
def servedFirst : List Event :=
  [.begin 1 .refresh, .reply 0 (rickReply "Toxic Rick"), .begin 0 .seed,
    .reply 1 (rickReply "Rick"), .reply 1 (rickReply "Rick")] ++
    List.replicate 3 (.reply 1 (rickReply "Rick"))

theorem undisturbed_servedFirst : (start {} fun _ => emptyReplica).Undisturbed servedFirst := by
  refine ⟨nofun, ?_, ?_, undisturbed_replies rfl rfl (List.replicate 5 (rickReply "Rick"))⟩
  · intro errand listed seed
    cases List.mem_singleton.mp listed
    cases seed
  · intro errand listed seed
    cases List.mem_singleton.mp listed
    cases seed

theorem run_seeds_servedFirst :
    let fleet := (start {} fun _ => emptyReplica).run servedFirst
    (start {} fun _ => emptyReplica).Undisturbed servedFirst ∧
      (∃ errand ∈ fleet.errands, errand.mode = .seed ∧ ∃ lease gathered,
        errand.stage = .running (.storing lease gathered false)) ∧
      fleet.store.memory.count = 0 ∧ ∀ id, fleet.store.memory.get? id = none := by
  intro fleet
  have walks : ((start {} fun _ => emptyReplica).run (servedFirst.take 5)).errands[1]? =
      some ⟨0, .seed, .running (.walking ⟨seedLock, 1, true⟩ {} {}), [.lock seedLock, .count]⟩ := rfl
  obtain ⟨replica, asked, gathers⟩ := run_rickPage walks rfl rfl "Rick"
  have found : fleet.errands[1]? = some ⟨0, .seed,
      .running (.storing ⟨seedLock, 1, true⟩ (Gathered.add {} (rickPage "Rick")) false),
      asked⟩ := by
    change (run _ (servedFirst.take 5 ++ _)).errands[1]? = _
    rw [run_append, gathers]
    rfl
  have listed := List.mem_of_getElem? found
  have vacant := run_seeds {} (fun _ => emptyReplica) servedFirst undisturbed_servedFirst _ listed
    rfl _ _ _ rfl
  exact ⟨undisturbed_servedFirst, ⟨_, listed, rfl, _, _, rfl⟩, vacant⟩

/-- A refresh is served while a seed stands before its upsert. -/
def overtaken : List Event :=
  [.begin 0 .seed, .reply 0 (rickReply "Rick"), .reply 0 (rickReply "Rick")] ++
    List.replicate 3 (.reply 0 (rickReply "Rick")) ++
    [.begin 1 .refresh, .reply 1 (rickReply "Toxic Rick")] ++
    List.replicate 3 (.reply 1 (rickReply "Toxic Rick")) ++ [.reply 1 (rickReply "Toxic Rick")]

/-- The seed has found no rows; its upsert replaces one that a refresh has written. -/
theorem run_seeds_overtaken :
    let fleet := (start {} fun _ => emptyReplica).run overtaken
    (∃ errand lease gathered, fleet.errands[0]? = some errand ∧ errand.mode = .seed ∧
      errand.stage = .running (.storing lease gathered false)) ∧
    (fleet.store.memory.get? 7).map Character.name = some "Toxic Rick" ∧
    ((fleet.step (.reply 0 (rickReply "Rick"))).store.memory.get? 7).map Character.name =
      some "Rick" := by
  intro fleet
  let counted := (start {} fun _ => emptyReplica).run
    [.begin 0 .seed, .reply 0 (rickReply "Rick"), .reply 0 (rickReply "Rick")]
  have found : counted.errands[0]? = some ⟨0, .seed, .running (.walking ⟨seedLock, 0, true⟩ {} {}),
    [.lock seedLock, .count]⟩ := rfl
  obtain ⟨replica, asked, seed_gathers⟩ := run_rickPage found rfl rfl "Rick"
  have fleet_eq : fleet = ((((counted.run (List.replicate 3 (.reply 0 (rickReply "Rick")))).run
      [.begin 1 .refresh, .reply 1 (rickReply "Toxic Rick")]).run
        (List.replicate 3 (.reply 1 (rickReply "Toxic Rick")))).run
          [.reply 1 (rickReply "Toxic Rick")]) := by
    simp only [fleet, overtaken, run_append]
    rfl
  rw [seed_gathers] at fleet_eq
  generalize same : run _ [.begin 1 .refresh, .reply 1 (rickReply "Toxic Rick")] = locked
    at fleet_eq
  have store : locked.store =
      { memory := { locks := ⟨[(refreshLock, 1), (seedLock, 0)], 2⟩ } } := by
    rw [← same]
    rfl
  have errands : locked.errands = [⟨0, .seed,
      .running (.storing ⟨seedLock, 0, true⟩ (Gathered.add {} (rickPage "Rick")) false), asked⟩,
      ⟨1, .refresh, .running (.walking ⟨refreshLock, 1, true⟩ {} {}), [.lock refreshLock]⟩] := by
    rw [← same]
    rfl
  have fresh : (locked.coordinators 1).client = emptyReplica.client := by
    rw [← same]
    rfl
  have found' : locked.errands[1]? = some ⟨1, .refresh,
      .running (.walking ⟨refreshLock, 1, true⟩ {} {}), [.lock refreshLock]⟩ := by
    rw [errands]
    rfl
  obtain ⟨replica', asked', refresh_gathers⟩ := run_rickPage found' rfl fresh "Toxic Rick"
  rw [refresh_gathers, store, errands] at fleet_eq
  rw [fleet_eq]
  exact ⟨⟨_, _, _, rfl, rfl, rfl⟩, rfl, rfl⟩

end Fleet

end Roster.Refresh
