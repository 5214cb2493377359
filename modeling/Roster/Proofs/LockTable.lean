import Mathlib.Data.List.Perm.Basic
import Mathlib.Logic.Function.Basic
import Roster.LockTable
import Roster.LockTable.Registry

namespace Roster

namespace LockTable

variable {table : LockTable} {lease : Lease}

theorem isLocked_iff {key : LockKey} :
    table.isLocked key ↔ key ∈ table.holders.map Prod.fst := by
  rw [isLocked, holder?, List.lookup_isSome_iff, List.mem_map]
  constructor
  · rintro ⟨entry, member, equal⟩
    exact ⟨entry, member, (eq_of_beq equal).symm⟩
  · rintro ⟨entry, member, rfl⟩
    exact ⟨entry, member, BEq.rfl⟩

theorem holder?_of_mem {key : LockKey} {token : Nat} (member : (key, token) ∈ table.holders)
    (distinct : (table.holders.map Prod.fst).Nodup) : table.holder? key = some token := by
  obtain ⟨earlier, later, split⟩ := List.append_of_mem member
  rw [split, List.map_append, List.map_cons, List.nodup_append] at distinct
  refine List.lookup_eq_some_iff.mpr ⟨earlier, later, split, fun entry inEarlier => ?_⟩
  have differs := distinct.2.2 entry.1 (List.mem_map_of_mem inEarlier) key List.mem_cons_self
  simpa [bne_iff_ne] using differs.symm

/-- To give up a lease leaves the other holders as they are. -/
theorem holders_free {others : List (LockKey × Nat)} (live : lease.live = true)
    (holders : ((lease.key, lease.token) :: others).Perm table.holders)
    (distinct : (table.holders.map Prod.fst).Nodup) :
    others.Perm (table.free lease).holders := by
  have member : (lease.key, lease.token) ∈ table.holders := holders.subset List.mem_cons_self
  have apart := (holders.map Prod.fst).nodup_iff.mpr distinct
  rw [List.map_cons, List.nodup_cons] at apart
  have kept : others.filter (fun entry => entry.1 != lease.key) = others := by
    refine List.filter_eq_self.mpr fun entry inOthers => bne_iff_ne.mpr fun same => apart.1 ?_
    exact List.mem_map.mpr ⟨entry, inOthers, same⟩
  rw [free, unlock, if_pos ⟨live, holder?_of_mem member distinct⟩]
  have filtered := holders.filter fun entry => entry.1 != lease.key
  rwa [List.filter_cons_of_neg (by simp), kept] at filtered

theorem holders_free_sublist (table : LockTable) (lease : Lease) :
    (table.free lease).holders.Sublist table.holders := by
  rw [free, unlock]
  split
  · exact List.filter_sublist
  · exact List.Sublist.refl _

theorem free_of_not_live (table : LockTable) (ended : lease.live = false) :
    table.free lease = table := by
  rw [free, unlock, if_neg (by simp [ended])]

@[simp]
theorem unlock_lease (table : LockTable) (lease : Lease) :
    (table.unlock lease).2 = { lease with live := false } := by
  rw [unlock]
  split <;> rfl

theorem tryLock_isSome_iff {key : LockKey} :
    (table.tryLock key).2.isSome ↔ key ∉ table.holders.map Prod.fst := by
  rw [← isLocked_iff, tryLock]
  split <;> simp_all

namespace Registry

theorem tryLock_of_isLocked {registry : Registry} {place : Nat} {key : LockKey}
    (locked : (registry.tables place).isLocked key) : registry.tryLock place key = registry := by
  rw [tryLock, LockTable.tryLock, if_pos locked]
  dsimp only
  rw [Function.update_eq_self]

theorem tryLock_of_not_isLocked {registry : Registry} {place : Nat} {key : LockKey}
    (unlocked : ¬ (registry.tables place).isLocked key) :
    ∃ lease table, lease.key = key ∧ lease.live = true ∧
      table.holders = (lease.key, lease.token) :: (registry.tables place).holders ∧
      registry.tryLock place key =
        { tables := Function.update registry.tables place table
          grants := registry.grants ++ [{ home := place, lease }] } := by
  rw [tryLock, LockTable.tryLock, if_neg unlocked]
  exact ⟨_, _, rfl, rfl, rfl, rfl⟩

theorem unlock_of_found {registry : Registry} {id : Nat} {grant : Grant}
    (found : registry.grants[id]? = some grant) (fate : Fate) :
    registry.unlock id fate =
      { tables := Function.update registry.tables grant.home
          ((registry.tables grant.home).free grant.lease)
        grants := registry.grants.set id
          { grant with lease := { grant.lease with live := false }, fate } } := by
  rw [unlock, found, ← LockTable.unlock_lease (registry.tables grant.home)]
  rfl

/-- What the held leases of a table stand for in it. -/
def entries (grants : List Grant) (place : Nat) : List (LockKey × Nat) :=
  (grants.filter fun grant => grant.IsHeld place).map Grant.entry

theorem entries_append (grants more : List Grant) (place : Nat) :
    entries (grants ++ more) place = entries grants place ++ entries more place := by
  rw [entries, List.filter_append, List.map_append]
  rfl

theorem entries_cons_of_held {grant : Grant} {place : Nat} (held : grant.IsHeld place)
    (rest : List Grant) : entries (grant :: rest) place = grant.entry :: entries rest place := by
  rw [entries, List.filter_cons_of_pos (by simpa using held)]
  rfl

theorem entries_cons_of_not_held {grant : Grant} {place : Nat} (other : ¬ grant.IsHeld place)
    (rest : List Grant) : entries (grant :: rest) place = entries rest place := by
  rw [entries, List.filter_cons_of_neg (by simpa using other)]
  rfl

theorem entries_perm {grants others : List Grant} (same : grants.Perm others) (place : Nat) :
    (entries grants place).Perm (entries others place) :=
  (same.filter _).map _

/-- The tables list the leases that are held, of which no two are for one key of one table. -/
structure Sound (registry : Registry) : Prop where
  holders : ∀ place, (entries registry.grants place).Perm (registry.tables place).holders
  distinct : ∀ place, ((registry.tables place).holders.map Prod.fst).Nodup
  live : ∀ grant ∈ registry.grants, grant.lease.live = true ↔ grant.fate = .held

variable {registry : Registry}

namespace Sound

theorem start : Sound {} where
  holders _ := .refl _
  distinct _ := .nil
  live _ member := nomatch member

theorem update (sound : registry.Sound) {place : Nat} {table : LockTable} {grants : List Grant}
    (here : (entries grants place).Perm table.holders)
    (distinct : (table.holders.map Prod.fst).Nodup)
    (elsewhere : ∀ other, other ≠ place →
      (entries grants other).Perm (entries registry.grants other))
    (live : ∀ grant ∈ grants, grant.lease.live = true ↔ grant.fate = .held) :
    Sound { tables := Function.update registry.tables place table, grants } where
  holders other := by
    dsimp only
    by_cases same : other = place
    · subst same
      rw [Function.update_self]
      exact here
    · rw [Function.update_of_ne same]
      exact (elsewhere other same).trans (sound.holders other)
  distinct other := by
    dsimp only
    by_cases same : other = place
    · subst same
      rw [Function.update_self]
      exact distinct
    · rw [Function.update_of_ne same]
      exact sound.distinct other
  live := live

theorem tryLock (sound : registry.Sound) (place : Nat) (key : LockKey) :
    (registry.tryLock place key).Sound := by
  by_cases locked : (registry.tables place).isLocked key
  · rw [tryLock_of_isLocked locked]
    exact sound
  · obtain ⟨lease, table, rfl, live, holders, taken⟩ := tryLock_of_not_isLocked locked
    rw [taken]
    apply sound.update
    case here =>
      rw [holders, entries_append, entries_cons_of_held ⟨rfl, rfl⟩]
      exact (List.perm_append_singleton _ _).trans ((sound.holders place).cons _)
    case distinct =>
      rw [holders]
      exact List.nodup_cons.mpr ⟨mt LockTable.isLocked_iff.mpr locked, sound.distinct place⟩
    case elsewhere =>
      intro other apart
      rw [entries_append, entries_cons_of_not_held fun held => apart held.1.symm]
      exact .of_eq (List.append_nil _)
    case live =>
      intro grant member
      rcases List.mem_append.mp member with old | new
      · exact sound.live grant old
      · cases List.mem_singleton.mp new
        exact iff_of_true live rfl

theorem unlock (sound : registry.Sound) (id : Nat) {fate : Fate} (ends : fate ≠ .held) :
    (registry.unlock id fate).Sound := by
  cases found : registry.grants[id]? with
  | none =>
      rw [Registry.unlock, found]
      exact sound
  | some grant =>
      obtain ⟨bound, taken⟩ := List.getElem?_eq_some_iff.mp found
      have before (place : Nat) : (entries registry.grants place).Perm
          (entries (grant :: registry.grants.eraseIdx id) place) :=
        entries_perm (taken ▸ (List.getElem_cons_eraseIdx_perm bound).symm) place
      -- The lease that has ended stands for nothing, so that only the others remain.
      have after (place : Nat) (lease : Lease) :
          (entries (registry.grants.set id { grant with lease, fate }) place).Perm
            (entries (registry.grants.eraseIdx id) place) := by
        have same := entries_perm (List.set_perm_cons_eraseIdx bound { grant with lease, fate }) place
        rwa [entries_cons_of_not_held fun held => ends held.2] at same
      have live := sound.live grant (List.mem_of_getElem? found)
      rw [unlock_of_found found]
      apply sound.update
      case here =>
        refine (after _ _).trans ?_
        have listed := (before grant.home).symm.trans (sound.holders grant.home)
        by_cases held : grant.fate = .held
        · rw [entries_cons_of_held ⟨rfl, held⟩] at listed
          exact LockTable.holders_free (live.mpr held) listed (sound.distinct grant.home)
        · rw [entries_cons_of_not_held fun isHeld => held isHeld.2] at listed
          rw [LockTable.free_of_not_live _ (Bool.eq_false_iff.mpr (mt live.mp held))]
          exact listed
      case distinct =>
        exact (sound.distinct grant.home).sublist ((LockTable.holders_free_sublist _ _).map _)
      case elsewhere =>
        intro other apart
        refine (after other _).trans ?_
        have same := before other
        rw [entries_cons_of_not_held fun held => apart held.1.symm] at same
        exact same.symm
      case live =>
        intro other member
        rcases List.mem_or_eq_of_mem_set member with old | rfl
        · exact sound.live other old
        · exact iff_of_false Bool.false_ne_true ends

theorem step {home : Nat → Nat} (sound : registry.Sound) (event : Event) :
    (registry.step home event).Sound := by
  cases event with
  | tryLock handle key => exact sound.tryLock (home handle) key
  | release id => exact sound.unlock id (by decide)
  | drop id => exact sound.unlock id (by decide)

theorem run {home : Nat → Nat} (sound : registry.Sound) (events : List Event) :
    (registry.run home events).Sound := by
  induction events generalizing registry with
  | nil => exact sound
  | cons event rest ih => exact ih (sound.step event)

theorem holder?_eq_some_iff (sound : registry.Sound) {place : Nat} {key : LockKey} {token : Nat} :
    (registry.tables place).holder? key = some token ↔
      ∃ grant ∈ registry.grants, grant.IsHeld place ∧ grant.entry = (key, token) := by
  have listed : (key, token) ∈ (registry.tables place).holders ↔
      ∃ grant ∈ registry.grants, grant.IsHeld place ∧ grant.entry = (key, token) := by
    rw [← (sound.holders place).mem_iff]
    simp [entries, and_assoc]
  rw [← listed]
  constructor
  · intro holds
    obtain ⟨earlier, later, split, -⟩ := List.lookup_eq_some_iff.mp holds
    rw [split]
    exact List.mem_append_right earlier List.mem_cons_self
  · exact fun member => holder?_of_mem member (sound.distinct place)

theorem tryLock_isSome_iff (sound : registry.Sound) (place : Nat) (key : LockKey) :
    ((registry.tables place).tryLock key).2.isSome ↔
      ∀ grant ∈ registry.grants, grant.IsHeld place → grant.lease.key ≠ key := by
  rw [LockTable.tryLock_isSome_iff, ← ((sound.holders place).map Prod.fst).mem_iff]
  simp [entries, Grant.entry]

end Sound

/-- To give up one lease, be it for the first time or again, leaves alone every other one that is
held. -/
theorem unlock_spares (sound : registry.Sound) {id other : Nat} (apart : other ≠ id) {grant : Grant}
    (found : registry.grants[other]? = some grant) (held : grant.fate = .held) {fate : Fate}
    (ends : fate ≠ .held) :
    (registry.unlock id fate).grants[other]? = some grant ∧
      ((registry.unlock id fate).tables grant.home).holder? grant.lease.key =
        some grant.lease.token := by
  have found' : (registry.unlock id fate).grants[other]? = some grant := by
    rw [unlock]
    split
    · exact (List.getElem?_set_ne apart.symm).trans found
    · exact found
  refine ⟨found', (sound.unlock id ends).holder?_eq_some_iff.mpr ?_⟩
  exact ⟨grant, List.mem_of_getElem? found', ⟨rfl, held⟩, rfl⟩

/-- Whatever is locked, released and dropped through any handles, in any order: each table lists just
the leases that were taken from it and are held, one for a key. A key can be locked if and only if no
such lease is for it, and the end of one lease leaves every other in force. -/
theorem run_leases (home : Nat → Nat) (events : List Event) :
    let registry := run home {} events
    (∀ place, (entries registry.grants place).Perm (registry.tables place).holders ∧
      ((registry.tables place).holders.map Prod.fst).Nodup ∧
      ∀ key token, (registry.tables place).holder? key = some token ↔
        ∃ grant ∈ registry.grants, grant.IsHeld place ∧ grant.entry = (key, token)) ∧
    (∀ handle key, ((registry.tables (home handle)).tryLock key).2.isSome ↔
      ∀ grant ∈ registry.grants, grant.IsHeld (home handle) → grant.lease.key ≠ key) ∧
    ∀ id other grant, other ≠ id → registry.grants[other]? = some grant → grant.fate = .held →
      ∀ event, event = .release id ∨ event = .drop id →
        (registry.step home event).grants[other]? = some grant ∧
          ((registry.step home event).tables grant.home).holder? grant.lease.key =
            some grant.lease.token := by
  intro registry
  have sound : registry.Sound := Sound.start.run events
  refine ⟨fun place => ?_, fun handle => sound.tryLock_isSome_iff (home handle), ?_⟩
  · exact ⟨sound.holders place, sound.distinct place, fun _ _ => sound.holder?_eq_some_iff⟩
  · rintro id other grant apart found held event (rfl | rfl)
    · exact unlock_spares sound apart found held (by decide)
    · exact unlock_spares sound apart found held (by decide)

theorem run_leases_dropped_late :
    let registry := run (fun _ => 0) {} [.tryLock 0 7, .release 0, .tryLock 1 7]
    let later : Grant := { home := 0, lease := { key := 7, token := 1 } }
    let after := registry.step (fun _ => 0) (.drop 0)
    registry.grants[1]? = some later ∧ after.grants[1]? = some later ∧
      (after.tables 0).holder? 7 = some 1 := by
  intro registry later after
  have found : registry.grants[1]? = some later := rfl
  obtain ⟨-, -, spares⟩ := run_leases (fun _ => 0) [.tryLock 0 7, .release 0, .tryLock 1 7]
  exact ⟨found, spares 0 1 later (by decide) found rfl (.drop 0) (.inr rfl)⟩

end Registry

end LockTable

end Roster
