import Mathlib.Data.List.Induction
import Roster.Proofs.LockTable
import Roster.Proofs.Refresh.Fleet

namespace Roster.Refresh

/-! At most one cycle at a time holds the lock that it works under. The holders that the lock table
lists are at all times the leases of the cycles that hold one, so the lock of a key is free once no
cycle for this key goes on. Whoever finds the lock held has asked for nothing else. -/

namespace Fleet

variable {fleet : Fleet} {errand : Errand} {id : Nat}

theorem put_over {event : Attempt.Event} (finished : errand.stage.isOver)
    (own : event.isForeign = false) (found : fleet.errands[id]? = some errand) :
    fleet.put id errand ((fleet.attempt errand).step event) = fleet := by
  have ended : (fleet.attempt errand).stage.isOver := finished
  have same : (fleet.attempt errand).step event = fleet.attempt errand := by
    rcases (Attempt.step_of_over ended event).2 with foreign | same
    · rw [own] at foreign
      cases foreign
    · exact same
  have stays : errand.go errand.stage = errand := by
    rw [Errand.go, Stage.asks_of_isOver finished, List.append_nil]
  rw [same, put, attempt, Function.update_eq_self, stays]
  have errands : fleet.errands.set id errand = fleet.errands := by
    obtain ⟨bounded, rfl⟩ := List.getElem?_eq_some_iff.mp found
    exact List.set_getElem_self bounded
  rw [errands]

/-- What stands at a place after a cycle was taken on: this cycle, or another as before. -/
theorem found_put {after : Attempt} {place : Nat} {other : Errand}
    (known : (fleet.put id errand after).errands[place]? = some other) :
    place = id ∧ other = errand.go after.stage ∨
      place ≠ id ∧ fleet.errands[place]? = some other := by
  rw [put, List.getElem?_set] at known
  split at known
  · split at known
    · exact .inl ⟨Eq.symm ‹_›, (Option.some.inj known).symm⟩
    · cases known
  · exact .inr ⟨Ne.symm ‹_›, known⟩

/-- What is done with a cycle changes nothing if there is no such cycle or it is over. -/
theorem act_cases (fleet : Fleet) (id : Nat) {event : Attempt.Event}
    (own : event.isForeign = false) :
    fleet.act id event = fleet ∨ ∃ errand cycle, fleet.errands[id]? = some errand ∧
      errand.stage = .running cycle ∧
      fleet.act id event = fleet.put id errand ((fleet.attempt errand).step event) := by
  rw [act]
  cases found : fleet.errands[id]? with
  | none => exact .inl rfl
  | some errand =>
      cases stands : errand.stage with
      | running cycle => exact .inr ⟨errand, cycle, rfl, stands, rfl⟩
      | ended | stopped => exact .inl (put_over (by rw [stands]; rfl) own found)

theorem leases_put (found : fleet.errands[id]? = some errand) (after : Attempt) :
    ∃ others, (errand.stage.lease?.toList ++ others).Perm fleet.leases ∧
      (after.stage.lease?.toList ++ others).Perm (fleet.put id errand after).leases := by
  obtain ⟨bounded, same⟩ := List.getElem?_eq_some_iff.mp found
  have front (other : Errand) (rest : List Errand) :
      other.stage.lease?.toList ++ rest.filterMap (·.stage.lease?) =
        (other :: rest).filterMap (·.stage.lease?) := by
    rw [List.filterMap_cons]
    cases other.stage.lease? <;> rfl
  have split : fleet.errands =
      fleet.errands.take id ++ errand :: fleet.errands.drop (id + 1) := by
    rw [← same, List.getElem_cons_drop, List.take_append_drop]
  refine ⟨(fleet.errands.take id ++ fleet.errands.drop (id + 1)).filterMap (·.stage.lease?), ?_, ?_⟩
  · rw [front, leases]
    conv_rhs => rw [split]
    exact List.perm_middle.symm.filterMap _
  · rw [leases, put, List.set_eq_take_append_cons_drop, if_pos bounded]
    refine (List.Perm.of_eq (front (errand.go after.stage) _)).trans ?_
    exact List.perm_middle.symm.filterMap _

/-- Asks for a lock that is held. -/
def Refuses (fleet : Fleet) (id : Nat) : Prop :=
  ∃ errand, fleet.errands[id]? = some errand ∧
    errand.stage = .running (.acquiring errand.mode) ∧ fleet.store.lockError = none ∧
    fleet.locks.isLocked errand.mode.lock

/-- At some moment of the run the cycle was told that its lock is held. -/
def Refused (origin : Fleet) (events : List Event) (id : Nat) : Prop :=
  ∃ before reply later, events = before ++ .reply id reply :: later ∧
    (origin.run before).Refuses id

theorem Refused.append {origin : Fleet} {events : List Event} (refused : Refused origin events id)
    (more : List Event) : Refused origin (events ++ more) id := by
  obtain ⟨before, reply, later, rfl, refuses⟩ := refused
  exact ⟨before, reply, later ++ more, by simp, refuses⟩

end Fleet

namespace Errand

/-- What a cycle that asks for its lock, that is to fill an empty store, or that has skipped, has
asked for by then. -/
def Accounts (errand : Errand) (refused : Prop) : Prop :=
  match errand.stage with
  | .running (.acquiring mode) => mode = errand.mode ∧ errand.asked = [.lock mode.lock]
  | .running (.counting _) => errand.mode = .seed ∧ errand.asked = [.lock seedLock, .count]
  | .running (.releasing _ .skipped) =>
    errand.mode = .seed ∧ errand.asked = [.lock seedLock, .count, .release]
  | .ended .skipped =>
    refused ∧ errand.asked = [.lock errand.mode.lock] ∨
      errand.mode = .seed ∧ errand.asked = [.lock seedLock, .count, .release]
  | _ => True

variable {errand : Errand} {refused : Prop}

theorem Accounts.mono (accounts : errand.Accounts refused) {known : Prop}
    (weaker : refused → known) : errand.Accounts known := by
  unfold Accounts at accounts ⊢
  split at accounts
  case h_4 => exact accounts.imp_left fun ⟨told, asked⟩ => ⟨weaker told, asked⟩
  all_goals exact accounts

theorem accounts_proceed (errand : Errand) (refused : Prop) (store : Simulation.FaultyStore)
    (replica : Replica) (lease : Lease) (gathered : Gathered) (walk : Source.Walk)
    (next : Source.Client × Source.Fetch.Next) :
    (errand.go (Attempt.take store (Cycle.proceed replica lease gathered walk next)).stage).Accounts
      refused := by
  unfold Cycle.proceed
  split
  · trivial
  · trivial
  · unfold Cycle.cutShort
    dsimp only
    split <;> trivial
  · trivial

theorem accounts_onCount (accounts : errand.mode = .seed ∧ errand.asked = [.lock seedLock, .count])
    (refused : Prop) (store : Simulation.FaultyStore) (replica : Replica) (lease : Lease)
    (answer : Except StoreError Nat) :
    (errand.go (Attempt.take store (Cycle.onCount replica lease answer)).stage).Accounts refused := by
  obtain ⟨mode, asked⟩ := accounts
  unfold Cycle.onCount
  split
  · trivial
  · split
    · refine ⟨mode, ?_⟩
      change errand.asked ++ [.release] = _
      rw [asked]
      rfl
    · trivial

theorem accounts_onLock {mode : Mode} (accounts : mode = errand.mode ∧ errand.asked = [.lock mode.lock])
    (store : Simulation.FaultyStore) (replica : Replica)
    (told : store.lockError = none → store.memory.locks.isLocked mode.lock = true → refused) :
    (errand.go (Attempt.take (store.tryLock mode.lock).1
      (Cycle.onLock replica mode (store.tryLock mode.lock).2)).stage).Accounts refused := by
  obtain ⟨rfl, asked⟩ := accounts
  have locking := store.locking_tryLock errand.mode.lock
  generalize store.tryLock errand.mode.lock = result at locking
  cases locking with
  | failed => trivial
  | refused works locked =>
      refine .inl ⟨told works locked, ?_⟩
      change errand.asked ++ [] = _
      rw [asked]
      rfl
  | taken =>
      cases mode : errand.mode with
      | refresh => trivial
      | seed =>
          refine ⟨mode, ?_⟩
          change errand.asked ++ [.count] = _
          rw [asked, mode]
          rfl

/-- The answer to a cycle leaves its account in order. -/
theorem accounts_reply (accounts : errand.Accounts refused) {fleet : Fleet} {reply : Reply}
    {cycle : Cycle Lease} (runs : errand.stage = .running cycle)
    (told : fleet.store.lockError = none → errand.stage = .running (.acquiring errand.mode) →
      fleet.locks.isLocked errand.mode.lock = true → refused) :
    (errand.go ((fleet.attempt errand).step (.reply reply)).stage).Accounts refused := by
  have runs' : (fleet.attempt errand).stage = .running cycle := runs
  rw [Attempt.step_reply runs']
  rw [Accounts, runs] at accounts
  cases cycle with
  | acquiring mode =>
      obtain ⟨rfl, asked⟩ := accounts
      exact accounts_onLock ⟨rfl, asked⟩ fleet.store _ fun works => told works runs
  | counting lease => exact accounts_onCount accounts refused _ _ lease _
  | walking lease gathered walk =>
      change (errand.go (Attempt.take _ (Cycle.onWalk ..)).stage).Accounts refused
      unfold Cycle.onWalk
      split
      · trivial
      · apply accounts_proceed
  | fetching | pausing => apply accounts_proceed
  | storing lease gathered cutShort =>
      rw [Attempt.advance]
      split
      · rename_i answer _
        cases answer <;> trivial
      · trivial
  | releasing lease outcome =>
      cases outcome with
      | completed | failed => trivial
      | skipped =>
          obtain ⟨mode, asked⟩ := accounts
          refine .inr ⟨mode, ?_⟩
          change errand.asked ++ [] = _
          rw [asked]
          rfl

end Errand

namespace Fleet

/-- The lock table lists the leases of the cycles that hold one, of which no two are for one key. -/
structure Guarded (refused : Nat → Prop) (fleet : Fleet) : Prop where
  holders : (fleet.leases.map fun lease => (lease.key, lease.token)).Perm fleet.locks.holders
  distinct : (fleet.locks.holders.map Prod.fst).Nodup
  own : ∀ errand ∈ fleet.errands, ∀ lease, errand.stage.lease? = some lease →
    lease.live = true ∧ lease.key = errand.mode.lock
  accounts : ∀ (id : Nat) (errand : Errand), fleet.errands[id]? = some errand →
    errand.Accounts (refused id)

variable {fleet : Fleet} {refused known : Nat → Prop} {errand : Errand} {id : Nat}

namespace Guarded

theorem start (store : Simulation.FaultyStore) (coordinators : Nat → Replica)
    (refused : Nat → Prop) : (Fleet.start store coordinators).Guarded refused where
  holders := .refl _
  distinct := .nil
  own _ member := nomatch member
  accounts _ _ found := nomatch found

/-- A step that neither takes nor gives up a lease. -/
theorem idle (guarded : fleet.Guarded refused) {after : Fleet}
    (errands : after.errands = fleet.errands) (locks : after.locks = fleet.locks)
    (weaker : ∀ id, refused id → known id) : after.Guarded known where
  holders := by rw [leases, errands, locks]; exact guarded.holders
  distinct := by rw [locks]; exact guarded.distinct
  own := by rw [errands]; exact guarded.own
  accounts id errand found := (guarded.accounts id errand (errands ▸ found)).mono (weaker id)

theorem begin (guarded : fleet.Guarded refused) (place : Nat) (mode : Mode)
    (weaker : ∀ id, refused id → known id) : (fleet.step (.begin place mode)).Guarded known := by
  constructor
  case holders =>
    rw [leases, step, List.filterMap_append]
    change ((fleet.leases ++ []).map _).Perm fleet.locks.holders
    rw [List.append_nil]
    exact guarded.holders
  case distinct => exact guarded.distinct
  case own =>
    intro errand member lease holds
    rcases List.mem_append.mp member with old | new
    · exact guarded.own errand old lease holds
    · cases List.mem_singleton.mp new
      cases holds
  case accounts =>
    intro id errand found
    rw [step, List.getElem?_append] at found
    split at found
    · exact (guarded.accounts id errand found).mono (weaker id)
    · cases List.mem_singleton.mp (List.mem_of_getElem? found)
      exact ⟨rfl, rfl⟩

theorem own_put (guarded : fleet.Guarded refused) {after : Attempt}
    (mine : ∀ lease, after.stage.lease? = some lease →
      lease.live = true ∧ lease.key = errand.mode.lock) :
    ∀ other ∈ (fleet.put id errand after).errands, ∀ lease, other.stage.lease? = some lease →
      lease.live = true ∧ lease.key = other.mode.lock := by
  intro other member
  rcases List.mem_or_eq_of_mem_set member with old | rfl
  · exact guarded.own other old
  · exact mine

theorem accounts_put (guarded : fleet.Guarded refused) {after : Attempt}
    (accounts : (errand.go after.stage).Accounts (refused id)) (place : Nat) (other : Errand)
    (known : (fleet.put id errand after).errands[place]? = some other) :
    other.Accounts (refused place) := by
  rcases found_put known with ⟨rfl, rfl⟩ | ⟨-, known⟩
  · exact accounts
  · exact guarded.accounts place other known

theorem put (guarded : fleet.Guarded refused) (found : fleet.errands[id]? = some errand)
    {after : Attempt} (passed : (fleet.attempt errand).Passed after)
    (accounts : (errand.go after.stage).Accounts (refused id)) :
    (fleet.put id errand after).Guarded refused := by
  have own := guarded.own errand (List.mem_of_getElem? found)
  obtain ⟨others, before, later⟩ := fleet.leases_put found after
  have listed := (before.map fun lease => (lease.key, lease.token)).trans guarded.holders
  have listed' := (later.map fun lease => (lease.key, lease.token)).symm
  cases passed with
  | kept same locks =>
      have same' : after.stage.lease? = errand.stage.lease? := same
      have locks' : (fleet.put id errand after).locks = fleet.locks := locks
      refine ⟨?_, ?_, guarded.own_put ?_, guarded.accounts_put accounts⟩
      · rw [same'] at listed'
        rw [locks']
        exact listed'.trans listed
      · rw [locks']
        exact guarded.distinct
      · rw [same']
        exact own
  | @took mode lease asks mine held holds =>
      have asks' : errand.stage = .running (.acquiring mode) := asks
      have none_before : errand.stage.lease? = none := by
        rw [asks']
        rfl
      have locks : (fleet.put id errand after).locks.holders =
          (lease.key, lease.token) :: fleet.locks.holders := held.holders
      have own_mode : mode = errand.mode := by
        have accounts := guarded.accounts id errand found
        rw [Errand.Accounts, asks'] at accounts
        exact accounts.1
      rw [none_before] at listed
      rw [holds] at listed'
      refine ⟨?_, ?_, guarded.own_put ?_, guarded.accounts_put accounts⟩
      · rw [locks]
        exact listed'.trans (listed.cons _)
      · rw [locks, List.map_cons, List.nodup_cons]
        refine ⟨fun taken => ?_, guarded.distinct⟩
        have locked : fleet.locks.isLocked lease.key := LockTable.isLocked_iff.mpr taken
        cases held.unlocked.symm.trans locked
      · intro other holds'
        cases holds.symm.trans holds'
        exact ⟨held.live, own_mode ▸ mine⟩
  | @gaveUp lease held locks ended =>
      have held' : errand.stage.lease? = some lease := held
      have locks' : (fleet.put id errand after).locks = fleet.locks.free lease := locks
      have none_after := Stage.lease?_of_isOver ended
      rw [held'] at listed
      rw [none_after] at listed'
      have freed := LockTable.holders_free (own lease held').1 listed guarded.distinct
      refine ⟨?_, ?_, guarded.own_put ?_, guarded.accounts_put accounts⟩
      · rw [locks']
        exact listed'.trans freed
      · rw [locks']
        have rest := (listed.map Prod.fst).nodup_iff.mpr guarded.distinct
        exact (freed.map Prod.fst).nodup_iff.mp (List.nodup_cons.mp rest).2
      · intro other holds
        cases none_after.symm.trans holds

theorem act (guarded : fleet.Guarded refused) (id : Nat) {event : Attempt.Event}
    (own : event.isForeign = false)
    (told : ∀ reply, event = .reply reply → fleet.Refuses id → refused id) :
    (fleet.act id event).Guarded refused := by
  rcases fleet.act_cases id own with same | ⟨errand, cycle, found, runs, acts⟩
  · rw [same]
    exact guarded
  · rw [acts]
    refine guarded.put found (Attempt.passed_step own runs) ?_
    cases event with
    | meanwhile => cases own
    | stop =>
        rw [Attempt.step_stop runs]
        trivial
    | reply reply =>
        refine Errand.accounts_reply (guarded.accounts id errand found) runs ?_
        exact fun works asks locked => told reply rfl ⟨errand, found, asks, works, locked⟩

theorem step (guarded : fleet.Guarded refused) (event : Event)
    (weaker : ∀ id, refused id → known id)
    (told : ∀ id reply, event = .reply id reply → fleet.Refuses id → known id) :
    (fleet.step event).Guarded known := by
  have guarded' : fleet.Guarded known := guarded.idle rfl rfl weaker
  cases event with
  | begin place mode => exact guarded.begin place mode weaker
  | reply id reply => exact guarded'.act id rfl fun _ _ => told id reply rfl
  | stop id => exact guarded'.act id rfl nofun
  | write | disturb | share => exact guarded.idle rfl rfl weaker

theorem run (store : Simulation.FaultyStore) (coordinators : Nat → Replica)
    (events : List Event) :
    ((Fleet.start store coordinators).run events).Guarded
      (Refused (Fleet.start store coordinators) events) := by
  induction events using List.reverseRecOn with
  | nil => exact .start store coordinators _
  | append_singleton events event ih =>
      rw [run_append]
      refine ih.step event (fun id refused => refused.append [event]) ?_
      rintro id reply rfl refuses
      exact ⟨events, reply, [], rfl, refuses⟩

end Guarded

/-! What is over stays as it is. -/

theorem found_act (finished : errand.stage.isOver) (found : fleet.errands[id]? = some errand)
    (place : Nat) {event : Attempt.Event} (own : event.isForeign = false) :
    (fleet.act place event).errands[id]? = some errand := by
  rcases fleet.act_cases place own with same | ⟨other, cycle, known, runs, acts⟩
  · rw [same]
    exact found
  · have apart : place ≠ id := by
      rintro rfl
      cases known.symm.trans found
      rw [runs] at finished
      cases finished
    rw [acts, put, List.getElem?_set_ne apart]
    exact found

theorem found_run (finished : errand.stage.isOver) (found : fleet.errands[id]? = some errand)
    (events : List Event) : (fleet.run events).errands[id]? = some errand := by
  induction events generalizing fleet with
  | nil => exact found
  | cons event rest ih =>
      refine ih ?_
      cases event with
      | begin place mode =>
          obtain ⟨bounded, same⟩ := List.getElem?_eq_some_iff.mp found
          rw [step, List.getElem?_append_left bounded]
          exact found
      | reply place reply => exact found_act finished found place rfl
      | stop place => exact found_act finished found place rfl
      | write | disturb | share => exact found

/-- Whoever is told that its lock is held skips, and has asked for nothing else. -/
theorem Guarded.skips (guarded : fleet.Guarded refused) (refuses : fleet.Refuses id)
    (reply : Reply) :
    ∃ errand, (fleet.step (.reply id reply)).errands[id]? = some errand ∧
      errand.stage = .ended .skipped ∧ errand.asked = [.lock errand.mode.lock] := by
  obtain ⟨errand, found, asks, works, locked⟩ := refuses
  have accounts := guarded.accounts id errand found
  rw [Errand.Accounts, asks] at accounts
  have ends : ((fleet.attempt errand).step (.reply reply)).stage = .ended .skipped := by
    rw [Attempt.step_reply asks, Attempt.advance]
    have locking := fleet.store.locking_tryLock errand.mode.lock
    change (Attempt.take (fleet.store.tryLock _).1 (Cycle.onLock _ _ (fleet.store.tryLock _).2)).stage = _
    generalize fleet.store.tryLock errand.mode.lock = result at locking
    cases locking with
    | failed fails => cases works.symm.trans fails
    | refused => rfl
    | taken _ own held =>
        have unlocked := held.unlocked
        rw [own] at unlocked
        cases unlocked.symm.trans locked
  refine ⟨errand.go (.ended .skipped), ?_, rfl, ?_⟩
  · rw [Fleet.step, Fleet.act, found]
    change (fleet.errands.set id (errand.go _))[id]? = _
    rw [List.getElem?_set_self (List.getElem?_eq_some_iff.mp found).1, ends]
  · change errand.asked ++ [] = _
    rw [accounts.2]
    rfl

theorem Refused.skips {store : Simulation.FaultyStore} {coordinators : Nat → Replica}
    {events : List Event} (refused : Refused (start store coordinators) events id) :
    ∃ errand, ((start store coordinators).run events).errands[id]? = some errand ∧
      errand.stage = .ended .skipped ∧ errand.asked = [.lock errand.mode.lock] := by
  obtain ⟨before, reply, later, rfl, refuses⟩ := refused
  obtain ⟨errand, found, ends, asked⟩ :=
    (Guarded.run store coordinators before).skips refuses reply
  refine ⟨errand, ?_, ends, asked⟩
  rw [run_append]
  exact found_run (by rw [ends]; rfl) found later

namespace Guarded

theorem locked (guarded : fleet.Guarded refused) (member : errand ∈ fleet.errands)
    (holds : errand.Holds) : fleet.locks.isLocked errand.mode.lock := by
  obtain ⟨lease, holds⟩ := Option.isSome_iff_exists.mp holds
  have listed : lease ∈ fleet.leases := List.mem_filterMap.mpr ⟨errand, member, holds⟩
  rw [LockTable.isLocked_iff, ← (guarded.own errand member lease holds).2]
  have present := guarded.holders.subset (List.mem_map_of_mem listed)
  exact List.mem_map.mpr ⟨_, present, rfl⟩

theorem exclusive (guarded : fleet.Guarded refused) {other : Nat} {rival : Errand}
    (found : fleet.errands[id]? = some errand) (known : fleet.errands[other]? = some rival)
    (holds : errand.Holds) (holds' : rival.Holds) (same : errand.mode.lock = rival.mode.lock) :
    id = other := by
  -- The keys of the leases are those of the holders, so none comes twice.
  have distinct := (guarded.holders.map Prod.fst).nodup_iff.mpr guarded.distinct
  rw [List.map_map, leases, List.Nodup, List.pairwise_map, List.pairwise_filterMap,
    List.pairwise_iff_getElem] at distinct
  have apart {id other : Nat} {errand rival : Errand} (found : fleet.errands[id]? = some errand)
      (known : fleet.errands[other]? = some rival) (holds : errand.Holds) (holds' : rival.Holds)
      (same : errand.mode.lock = rival.mode.lock) : ¬ id < other := by
    intro earlier
    obtain ⟨lease, holds⟩ := Option.isSome_iff_exists.mp holds
    obtain ⟨lease', holds'⟩ := Option.isSome_iff_exists.mp holds'
    have own := (guarded.own errand (List.mem_of_getElem? found) lease holds).2
    have own' := (guarded.own rival (List.mem_of_getElem? known) lease' holds').2
    obtain ⟨bounded, rfl⟩ := List.getElem?_eq_some_iff.mp found
    obtain ⟨bounded', rfl⟩ := List.getElem?_eq_some_iff.mp known
    exact distinct id other bounded bounded' earlier lease holds lease' holds'
      (own.trans (same.trans own'.symm))
  have notBefore := apart found known holds holds' same
  have notAfter := apart known found holds' holds same.symm
  omega

theorem unlocked (guarded : fleet.Guarded refused) {key : LockKey}
    (ended : ∀ errand ∈ fleet.errands, errand.mode.lock = key → errand.stage.isOver) :
    fleet.locks.isLocked key = false := by
  rw [← Bool.not_eq_true, LockTable.isLocked_iff]
  intro held
  rw [← (guarded.holders.map Prod.fst).mem_iff, List.map_map] at held
  obtain ⟨lease, listed, rfl⟩ := List.mem_map.mp held
  obtain ⟨errand, member, holds⟩ := List.mem_filterMap.mp listed
  have finished := ended errand member (guarded.own errand member lease holds).2.symm
  cases holds.symm.trans (Stage.lease?_of_isOver finished)

end Guarded

/-- However many coordinators run their cycles over one store, and wherever these are stopped: no two
of them hold their lock at a time if it is the same, and while one does the lock is taken. A cycle
skips after it was told that its lock is held, and then it has asked for nothing but the lock; or
because it was to fill a store that is not empty. Once all cycles with a lock are over, it is free. -/
theorem run_exclusive (store : Simulation.FaultyStore) (coordinators : Nat → Replica)
    (events : List Event) :
    let origin := start store coordinators
    let fleet := origin.run events
    (∀ (id other : Nat) (errand rival : Errand), fleet.errands[id]? = some errand →
      fleet.errands[other]? = some rival → errand.Holds → rival.Holds →
      errand.mode.lock = rival.mode.lock → id = other) ∧
    (∀ errand ∈ fleet.errands, errand.Holds → fleet.locks.isLocked errand.mode.lock) ∧
    (∀ id, Refused origin events id → ∃ errand, fleet.errands[id]? = some errand ∧
      errand.stage = .ended .skipped ∧ errand.asked = [.lock errand.mode.lock]) ∧
    (∀ (id : Nat) (errand : Errand), fleet.errands[id]? = some errand →
      errand.stage = .ended .skipped → Refused origin events id ∨
        errand.mode = .seed ∧ errand.asked = [.lock seedLock, .count, .release]) ∧
    ∀ key, (∀ errand ∈ fleet.errands, errand.mode.lock = key → errand.stage.isOver) →
      fleet.locks.isLocked key = false := by
  intro origin fleet
  have guarded : fleet.Guarded (Refused origin events) := .run store coordinators events
  refine ⟨?_, ?_, ?_, ?_, ?_⟩
  · intro id other errand rival found known
    exact guarded.exclusive found known
  · intro errand member
    exact guarded.locked member
  · intro id refused
    exact refused.skips
  · intro id errand found ends
    have accounts := guarded.accounts id errand found
    rw [Errand.Accounts, ends] at accounts
    exact accounts.imp_left And.left
  · intro key
    exact guarded.unlocked

/-! Two coordinators that want to refresh at a time. -/

def idle : Replica where
  client := .new 0 .zero {}
  pages := .new "page" 0 .zero
  freshness := { ttl := .zero }

def contested : List Event :=
  let reply : Reply := ⟨⟨⟨0⟩, 0, .ok {}⟩, .ofMillis 0⟩
  [.begin 0 .refresh, .begin 1 .refresh, .reply 1 reply, .reply 0 reply, .stop 1]

theorem run_exclusive_contested :
    let origin := start {} fun _ => idle
    let fleet := origin.run contested
    Refused origin contested 0 ∧
      (∃ errand, fleet.errands[0]? = some errand ∧ errand.stage = .ended .skipped ∧
        errand.asked = [.lock errand.mode.lock]) ∧
      (∀ errand ∈ fleet.errands, errand.mode.lock = refreshLock → errand.stage.isOver) ∧
      fleet.locks.isLocked refreshLock = false := by
  intro origin fleet
  obtain ⟨-, -, skips, -, unlocked⟩ := run_exclusive {} (fun _ => idle) contested
  have refused : Refused origin contested 0 :=
    ⟨contested.take 3, _, [.stop 1], rfl, _, rfl, rfl, rfl, rfl⟩
  have ended : ∀ errand ∈ fleet.errands, errand.mode.lock = refreshLock → errand.stage.isOver := by
    intro errand member _
    have stages : fleet.errands.map (·.stage.isOver) = [true, true] := rfl
    have listed := List.mem_map_of_mem (f := fun errand => errand.stage.isOver) member
    rw [stages] at listed
    simpa using listed
  exact ⟨refused, skips 0 refused, ended, unlocked refreshLock ended⟩

end Fleet

end Roster.Refresh
