import Roster.Proofs.Cache.Provenance

namespace Roster.Cache.Traffic

/-! Every answer has a source in the run: a loader for its key that has ended, run by the caller
itself or by the one whose flight it has joined, or an entry that a leader has stored for that key
and that is neither too old nor older than the last time the entries were emptied. -/

variable {K V E : Type} [BEq K] [Hashable K] {origin traffic after : Traffic K V E}
  {good : Entry K (Loaded V) → Prop} {event : Event K V E} {events : List (Event K V E)}

/-- A leader's loader for a key ends with a value, which is stored. -/
structure Stores (traffic : Traffic K V E) (event : Event K V E) (key : K) (value : Loaded V)
    (stored : Instant) : Prop where
  finishes : event = .finish value.load.caller (.ok value.content) stored
  leads : ∃ leader generation, traffic.callers[value.load.caller]? = some leader ∧
    leader.key == key ∧
    leader.stage = .loading (.leading ⟨some leader.key⟩ leader.key generation) value.load ∧
    traffic.cache.entries.insert leader.key value stored = .ok (traffic.step event).cache.entries

/-- What was stored in the course of a run, and since when the entries have not been emptied: they
were not cleared, and the generation, which counts all clears and resets, is the same throughout. -/
def Kept (origin : Traffic K V E) (events : List (Event K V E)) (key : K) (value : Loaded V)
    (stored : Instant) : Prop :=
  ∃ before event since, events = before ++ event :: since ∧
    (origin.run before).Stores event key value stored ∧ .clear ∉ since ∧
    ∀ early, early <+: since → (origin.run (before ++ event :: early)).cache.generation =
      (origin.run (before ++ [event])).cache.generation

/-- A loader for a key has ended in the course of a run, with this result. -/
def Gave (origin : Traffic K V E) (events : List (Event K V E)) (key : K) (answer : Answer V E) :
    Prop :=
  ∃ before caller call result now,
    before ++ [.finish answer.load.caller result now] <+: events ∧
    (origin.run before).callers[answer.load.caller]? = some caller ∧ caller.key == key ∧
    caller.stage = .loading call answer.load ∧ answer = answer.load.mark result

theorem Gave.extend {key : K} {answer : Answer V E} (gave : Gave origin events key answer)
    (later : List (Event K V E)) : Gave origin (events ++ later) key answer := by
  obtain ⟨before, caller, call, result, now, early, rest⟩ := gave
  exact ⟨before, caller, call, result, now, early.trans (List.prefix_append events later), rest⟩

/-- A loader gives its result with the event that ends it. -/
theorem gave_of_ends {id : Nat} {caller : Caller K V E} {key : K} {call : Coalescing.Call K}
    {load : Load} {result : Except E V} (found : (origin.run events).callers[id]? = some caller)
    (equal : caller.key == key) (loading : caller.stage = .loading call load)
    (own : load.caller = id) (ends : event.Ends id (some result)) :
    Gave origin (events ++ [event]) key (load.mark result) := by
  cases ends with
  | finish _ _ now =>
      subst own
      simp only [Gave, Answer.load_mark]
      exact ⟨events, caller, call, result, now, List.prefix_refl _, found, equal, loading, rfl⟩

/-! Entries. -/

theorem Moved.ttl_eq (moved : traffic.Moved good event after) :
    after.cache.entries.ttl = traffic.cache.entries.ttl := by
  cases moved with
  | idle | poisoned | turned => rfl
  | cleared => rfl
  | entered _ begun => exact begun.ttl_eq
  | ended _ _ _ stores => exact stores.ttl_eq

/-- The entries stay, or they are emptied and a new generation begins. -/
theorem Moved.emptied (moved : traffic.Moved good event after)
    (sound : traffic.cache.entries.Sound good)
    (renewed : after.cache.generation ≠ traffic.cache.generation)
    (better : Entry K (Loaded V) → Prop) : after.cache.entries.Sound better := by
  cases moved with
  | idle | poisoned | turned => exact absurd rfl renewed
  | cleared => exact sound.clear better
  | entered _ begun =>
      cases begun with
      | hit | joined | opened => exact absurd rfl renewed
      | bypassed => exact sound.clear better
  | ended _ _ _ stores =>
      cases stores with
      | kept | skipped => exact absurd rfl renewed
      | reset => exact sound.clear better

section Equality

variable [EquivBEq K]

theorem Kept.congr {key other : K} {value : Loaded V} {stored : Instant}
    (kept : Kept origin events key value stored) (equal : key == other) :
    Kept origin events other value stored := by
  obtain ⟨before, event, since, split, stores, unbroken⟩ := kept
  obtain ⟨finishes, leader, generation, found, same, rest⟩ := stores
  exact ⟨before, event, since, split,
    ⟨finishes, leader, generation, found, BEq.trans same equal, rest⟩, unbroken⟩

omit [EquivBEq K] in
theorem Kept.extend {key : K} {value : Loaded V} {stored : Instant}
    (kept : Kept origin events key value stored)
    (same : ((origin.run events).step event).cache.generation =
      (origin.run events).cache.generation) :
    Kept origin (events ++ [event]) key value stored := by
  obtain ⟨before, store, since, rfl, stores, unclear, unbroken⟩ := kept
  refine ⟨before, store, since ++ [event], by simp, stores, ?_, ?_⟩
  · rw [List.mem_append, List.mem_singleton]
    rintro (clears | rfl)
    · exact unclear clears
    · exact absurd same (Nat.succ_ne_self _)
  · intro early first
    rcases List.prefix_concat_iff.mp first with rfl | first
    · have split : before ++ store :: (since ++ [event]) =
          (before ++ store :: since) ++ [event] := by
        simp
      rw [split, run_append]
      exact same.trans (unbroken since (List.prefix_refl since))
    · exact unbroken early first

variable [LawfulHashable K]

/-- What a leader stores it has loaded itself. -/
theorem Orderly.stores (orderly : traffic.Orderly) (traced : traffic.Traced)
    (event : Event K V E) :
    traffic.Safe event fun entry => traffic.Stores event entry.key entry.value entry.inserted := by
  intro id caller generation load value now finishes found leading usable current stored equal
  obtain ⟨rfl, -⟩ := traced.loading found leading
  obtain ⟨entries, inserts⟩ : ∃ entries,
      traffic.cache.entries.insert caller.key (⟨value, load⟩ : Loaded V) now = .ok entries := by
    obtain ⟨entries, inserts, -⟩ := orderly.steady.entries_sound.insert fun _ _ => trivial
    exact ⟨entries, inserts⟩
  have stands : traffic.callers[load.caller]?.map Caller.stage =
      some (.loading (.leading ⟨some caller.key⟩ caller.key generation) load) := by
    rw [found, Option.map_some, leading]
  have entries_eq : (traffic.step event).cache.entries = entries := by
    rw [finishes, Traffic.step, stands]
    change ((traffic.cache.store caller.key ⟨value, load⟩ generation now).complete
      ⟨some caller.key⟩ (.ok ⟨value, load⟩ : Except (Loaded E) (Loaded V))).1.entries = entries
    rw [(Coalescing.complete_entries _ _ _).1, Coalescing.store_of_insert usable current inserts]
  exact ⟨finishes, caller, generation, found, BEq.symm equal, leading, entries_eq ▸ inserts⟩

end Equality

section Runs

variable [EquivBEq K] [LawfulHashable K] (name : String) (capacity : Nat) (ttl : Span)
  (events : List (Event K V E))

theorem ttl_run : ((start name capacity ttl).run events).cache.entries.ttl = ttl := by
  have origin : (start name capacity ttl : Traffic K V E).Orderly := .start name capacity ttl
  induction events using List.reverseRecOn with
  | nil => rfl
  | append_singleton events event ih =>
      rw [run_append]
      exact ((origin.run events).steady.moved event).ttl_eq.trans ih

/-- Every entry was stored in the course of the run, after the entries were last emptied. -/
theorem entries_kept :
    ((start name capacity ttl).run events).cache.entries.Sound fun entry =>
      Kept (start name capacity ttl) events entry.key entry.value entry.inserted := by
  have origin : (start name capacity ttl : Traffic K V E).Orderly := .start name capacity ttl
  induction events using List.reverseRecOn with
  | nil => exact .new capacity ttl _
  | append_singleton events event ih =>
      have orderly := origin.run events
      have traced := (Traced.start name capacity ttl).run origin events
      rw [run_append]
      change (((start name capacity ttl).run events).step event).cache.entries.Sound _
      by_cases same : (((start name capacity ttl).run events).step event).cache.generation =
        ((start name capacity ttl).run events).cache.generation
      · have sound := ih.mono fun entry kept => Kept.extend kept same
        refine (orderly.steady.moved_of sound ?_).entries_sound sound
        intro id caller generation load value now finishes found leading usable current key equal
        have stores := orderly.stores traced event finishes found leading usable current key equal
        refine ⟨events, event, [], rfl, stores, List.not_mem_nil, ?_⟩
        intro early first
        rw [List.prefix_nil.mp first]
      · exact (orderly.steady.moved event).emptied orderly.steady.entries_sound same _

variable {events}

/-- What a caller has been told a loader has given for its key. -/
theorem gave_of_told {caller : Caller K V E} {answer : Answer V E}
    (member : caller ∈ ((start name capacity ttl).run events).callers)
    (told : caller.stage = .told (some answer)) :
    Gave (start name capacity ttl) events caller.key answer := by
  have origin : (start name capacity ttl : Traffic K V E).Orderly := .start name capacity ttl
  induction events using List.reverseRecOn generalizing caller with
  | nil => cases member
  | append_singleton events event ih =>
      have orderly := origin.run events
      have traced := (Traced.start name capacity ttl).run origin events
      obtain ⟨id, found⟩ := List.mem_iff_getElem?.mp member
      rw [run_append] at found
      rcases (orderly.steady.moved event).caller_cases orderly.ticketed found with
        ⟨before, known, sameKey, -, -, went⟩ | ⟨-, key, now, cache, begin, -, begun, rfl⟩
      · rw [sameKey]
        generalize caller.stage = stage at went told
        cases went with
        | stayed => exact (ih (List.mem_of_getElem? known) told).extend [event]
        | turned turn => exact absurd told (turn.awake.2 _)
        | ended _ result? => cases result? <;> cases told
        | woken waits knownLeader leads loading result? ends =>
            cases result? with
            | none => cases told
            | some result =>
                cases told
                obtain ⟨own, -⟩ := traced.loading knownLeader loading
                exact gave_of_ends knownLeader (orderly.key_of_leads knownLeader leads) loading own
                  ends
      · cases begun <;> cases told

/-- What a caller returns after an event it had returned before, or a loader has given it: its own,
or that of its leader. -/
theorem gave_of_went {id : Nat} {caller : Caller K V E} {stage : Stage K V E}
    {answer : Answer V E}
    (found : ((start name capacity ttl).run events).callers[id]? = some caller)
    (went : Went ((start name capacity ttl).run events) event id caller stage)
    (returned : stage = .returned answer) :
    caller.stage = .returned answer ∨
      Gave (start name capacity ttl) (events ++ [event]) caller.key answer ∧
        (answer.load.caller = id ∨ caller.leader? = some answer.load.caller) := by
  have origin : (start name capacity ttl : Traffic K V E).Orderly := .start name capacity ttl
  have traced := (Traced.start name capacity ttl).run origin events
  have member := List.mem_of_getElem? found
  have ended {call load result} (loading : caller.stage = .loading call load)
      (ends : event.Ends id (some result)) :
      Gave (start name capacity ttl) (events ++ [event]) caller.key (load.mark result) ∧
        (load.mark result).load.caller = id := by
    obtain ⟨own, -⟩ := traced.loading found loading
    exact ⟨gave_of_ends found BEq.rfl loading own ends, by rwa [Answer.load_mark]⟩
  cases went with
  | stayed => exact .inl returned
  | turned turn =>
      generalize stood : caller.stage = stage' at turn
      cases turn with
      | loaded load ends =>
          cases returned
          exact .inr ((ended stood ends).imp_right .inl)
      | answered =>
          cases returned
          exact .inr ⟨(gave_of_told name capacity ttl member stood).extend [event],
            .inr (traced.told member stood)⟩
      | _ => cases returned
  | ended loading result? ends =>
      cases result? with
      | none => cases returned
      | some result =>
          cases returned
          exact .inr ((ended loading ends).imp_right .inl)
  | woken => cases returned

variable (events)

end Runs

/-! A caller that is served what another has stored. -/

end Roster.Cache.Traffic
