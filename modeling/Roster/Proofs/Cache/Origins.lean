import Mathlib.Data.List.Induction
import Roster.Proofs.Cache.Contention
import Roster.Proofs.Cache.Sources

namespace Roster.Cache.Contention

/-! Where the answers come from of callers that run at the same time: from loaders, or from entries
that were neither too old nor outdated when they were found. A caller finds and loads for itself, or
the caller whose flight it has joined does so for it. -/

variable {K V E : Type} [BEq K] [Hashable K] {origin contention after : Contention K V E}
  {event : Event K V E} {events : List (Event K V E)}

/-- A loader for a key has ended in the course of a run, with this result. -/
def Gave (origin : Contention K V E) (events : List (Event K V E)) (key : K)
    (answer : Answer V E) : Prop :=
  ∃ before caller generation? result,
    before ++ [.finish answer.load.caller result] <+: events ∧
    (origin.run before).callers[answer.load.caller]? = some caller ∧ caller.key == key ∧
    caller.stage = .loading generation? answer.load ∧ answer = answer.load.mark result

/-- A leader stores a value that it has loaded for a key. -/
structure Stores (contention : Contention K V E) (event : Event K V E) (key : K)
    (value : Loaded V) (stored : Instant) : Prop where
  acts : event = .act value.load.caller stored
  leads : ∃ leader, contention.callers[value.load.caller]? = some leader ∧ leader.key == key ∧
    leader.stage = .storing contention.cache.generation value ∧
    contention.cache.entries.insert leader.key value stored =
      .ok (contention.step event).cache.entries

/-- What its leader's loader has given was stored in the course of a run, and the entries have not been
emptied since: they were not cleared, and the generation, which counts all clears and resets, is the
same throughout. -/
def Kept (origin : Contention K V E) (events : List (Event K V E)) (key : K) (value : Loaded V)
    (stored : Instant) : Prop :=
  ∃ before event since, events = before ++ event :: since ∧
    (origin.run before).Stores event key value stored ∧ Gave origin before key (.ok value) ∧
    .clear ∉ since ∧
    ∀ early, early <+: since → (origin.run (before ++ event :: early)).cache.generation =
      (origin.run (before ++ [event])).cache.generation

/-- In the course of a run a caller has looked up its key and found a value that was kept under it and
had not outlived the lifetime of entries. -/
def Found (origin : Contention K V E) (events : List (Event K V E)) (id : Nat) (key : K)
    (value : Loaded V) : Prop :=
  ∃ before asked stored caller cache, before ++ [.act id asked] <+: events ∧
    (origin.run before).callers[id]? = some caller ∧ caller.key == key ∧
    (caller.stage = .looking ∨ ∃ generation, caller.stage = .checking generation) ∧
    (origin.run before).cache.lookup caller.key asked = .ok (cache, some value) ∧
    Kept origin before key value stored ∧
    asked.nanos ≤ stored.nanos + origin.cache.entries.ttl.nanos

/-- What a caller has come by itself. -/
inductive Source (origin : Contention K V E) (events : List (Event K V E)) (id : Nat) (key : K) :
    Answer V E → Prop
  | found {value : Loaded V} (found : Found origin events id key value) :
      Source origin events id key (.ok value)
  | gave {answer : Answer V E} (gave : Gave origin events key answer)
      (own : answer.load.caller = id) : Source origin events id key answer

/-- In the course of a run a caller has joined a flight, and this is who led it then. -/
def Joined (origin : Contention K V E) (events : List (Event K V E)) (id leader : Nat) (key : K) :
    Prop :=
  ∃ before now caller, before ++ [.act id now] <+: events ∧
    (origin.run before).callers[id]? = some caller ∧ caller.stage = .joining ∧
    (origin.run before).Leads leader key

/-! What has been so remains so. -/

theorem Gave.extend {key : K} {answer : Answer V E} (gave : Gave origin events key answer)
    (later : List (Event K V E)) : Gave origin (events ++ later) key answer := by
  obtain ⟨before, caller, generation?, result, early, rest⟩ := gave
  exact ⟨before, caller, generation?, result, early.trans (List.prefix_append events later), rest⟩

theorem Found.extend {id : Nat} {key : K} {value : Loaded V} (found : Found origin events id key value)
    (later : List (Event K V E)) : Found origin (events ++ later) id key value := by
  obtain ⟨before, asked, stored, caller, cache, early, rest⟩ := found
  exact ⟨before, asked, stored, caller, cache, early.trans (List.prefix_append events later), rest⟩

theorem Source.extend {id : Nat} {key : K} {answer : Answer V E}
    (source : Source origin events id key answer) (later : List (Event K V E)) :
    Source origin (events ++ later) id key answer := by
  cases source with
  | found found => exact .found (found.extend later)
  | gave gave own => exact .gave (gave.extend later) own

theorem Joined.extend {id leader : Nat} {key : K} (joined : Joined origin events id leader key)
    (later : List (Event K V E)) : Joined origin (events ++ later) id leader key := by
  obtain ⟨before, now, caller, early, rest⟩ := joined
  exact ⟨before, now, caller, early.trans (List.prefix_append events later), rest⟩

theorem Kept.extend {key : K} {value : Loaded V} {stored : Instant}
    (kept : Kept origin events key value stored)
    (same : ((origin.run events).step event).cache.generation =
      (origin.run events).cache.generation) :
    Kept origin (events ++ [event]) key value stored := by
  obtain ⟨before, store, since, rfl, stores, gave, unclear, unbroken⟩ := kept
  refine ⟨before, store, since ++ [event], by simp, stores, gave, ?_, ?_⟩
  · rw [List.mem_append, List.mem_singleton]
    rintro (clears | rfl)
    · exact unclear clears
    · exact absurd same (Nat.succ_ne_self _)
  · intro early first
    rcases List.prefix_concat_iff.mp first with rfl | first
    · have split : before ++ store :: (since ++ [event]) =
          (before ++ store :: since) ++ [event] := by
        simp
      rw [split, run_append]
      exact same.trans (unbroken since (List.prefix_refl since))
    · exact unbroken early first

section Equality

variable [EquivBEq K] {key other : K} (equal : key == other)

include equal

theorem Gave.congr {answer : Answer V E} (gave : Gave origin events key answer) :
    Gave origin events other answer := by
  obtain ⟨before, caller, generation?, result, early, found, same, rest⟩ := gave
  exact ⟨before, caller, generation?, result, early, found, BEq.trans same equal, rest⟩

theorem Kept.congr {value : Loaded V} {stored : Instant}
    (kept : Kept origin events key value stored) : Kept origin events other value stored := by
  obtain ⟨before, event, since, split, stores, gave, unbroken⟩ := kept
  obtain ⟨acts, leader, found, same, rest⟩ := stores
  exact ⟨before, event, since, split, ⟨acts, leader, found, BEq.trans same equal, rest⟩,
    gave.congr equal, unbroken⟩

theorem Source.congr {id : Nat} {answer : Answer V E} (source : Source origin events id key answer) :
    Source origin events id other answer := by
  cases source with
  | found found =>
      obtain ⟨before, asked, stored, caller, cache, early, known, same, looks, finds, kept, fresh⟩ :=
        found
      exact .found ⟨before, asked, stored, caller, cache, early, known, BEq.trans same equal, looks,
        finds, kept.congr equal, fresh⟩
  | gave gave own => exact .gave (gave.congr equal) own

end Equality

/-! Callers. -/

/-- What a caller has in its hands has a source. -/
def Backed (origin : Contention K V E) (events : List (Event K V E)) (id : Nat)
    (caller : Caller K V E) : Prop :=
  match caller.stage with
  | .loading _ load => load.caller = id
  | .storing _ value => Gave origin events caller.key (.ok value) ∧ value.load.caller = id
  | .completing (some answer) => Source origin events id caller.key answer
  | .telling (some answer) _ => Source origin events id caller.key answer
  | .emptying (.complete answer) => Source origin events id caller.key answer
  | .mending (.complete answer) => Source origin events id caller.key answer
  | .told (some answer) =>
      ∃ leader, caller.leader? = some leader ∧ Source origin events leader caller.key answer
  | .returned answer =>
      Source origin events id caller.key answer ∨
        ∃ leader, caller.leader? = some leader ∧ Source origin events leader caller.key answer
  | _ => True

theorem Backed.extend {id : Nat} {caller : Caller K V E} (backed : Backed origin events id caller)
    (later : List (Event K V E)) : Backed origin (events ++ later) id caller := by
  unfold Backed at backed ⊢
  split
  case h_1 stands =>
    rw [stands] at backed
    exact backed
  case h_2 stands =>
    rw [stands] at backed
    exact ⟨backed.1.extend later, backed.2⟩
  case h_3 stands | h_4 stands | h_5 stands | h_6 stands =>
    rw [stands] at backed
    exact backed.extend later
  case h_7 stands =>
    rw [stands] at backed
    obtain ⟨leader, knows, source⟩ := backed
    exact ⟨leader, knows, source.extend later⟩
  case h_8 stands =>
    rw [stands] at backed
    rcases backed with source | ⟨leader, knows, source⟩
    · exact .inl (source.extend later)
    · exact .inr ⟨leader, knows, source.extend later⟩
  case h_9 => trivial

section Runs

variable [EquivBEq K] [LawfulHashable K]

theorem found_of_get {id : Nat} {caller : Caller K V E} {now : Instant} {value : Loaded V}
    {entries : Lru K (Loaded V)}
    (sound : (origin.run events).cache.entries.Sound fun entry =>
      Kept origin events entry.key entry.value entry.inserted)
    (ttl : (origin.run events).cache.entries.ttl = origin.cache.entries.ttl)
    (known : (origin.run events).callers[id]? = some caller)
    (looks : caller.stage = .looking ∨ ∃ generation, caller.stage = .checking generation)
    (acts : event = .act id now) (working : (origin.run events).cache.poisoned = false)
    (gets : (origin.run events).cache.entries.get caller.key now = .ok (entries, some value)) :
    Found origin (events ++ [event]) id caller.key value := by
  obtain ⟨entries', found, gets', -, -, hits, -⟩ := sound.get caller.key now
  cases gets.symm.trans gets'
  obtain ⟨entry, kept, equal, rfl, fresh⟩ := hits value rfl
  refine ⟨events, now, entry.inserted, caller, { (origin.run events).cache with entries }, ?_, known,
    BEq.rfl, looks, ?_, kept.congr equal, ?_⟩
  · exact acts ▸ List.prefix_refl _
  · rw [Coalescing.lookup, if_neg (by simp [working]), gets]
    rfl
  · rw [ttl, Bool.eq_false_iff, Ne, Instant.outlives_iff] at fresh
    omega

omit [LawfulHashable K] in
/-- A loader gives its result with the event that ends it. -/
theorem gave_of_finish {id : Nat} {caller : Caller K V E} {generation? : Option Nat} {load : Load}
    {result : Except E V} (known : (origin.run events).callers[id]? = some caller)
    (loading : caller.stage = .loading generation? load) (own : load.caller = id)
    (finishes : event = .finish id result) :
    Gave origin (events ++ [event]) caller.key (load.mark result) := by
  subst own finishes
  have same : (load.mark result : Answer V E).load = load := Answer.load_mark load result
  refine ⟨events, caller, generation?, result, ?_, ?_, BEq.rfl, ?_, ?_⟩
  · exact same.symm ▸ List.prefix_refl _
  · rw [same]
    exact known
  · rw [same]
    exact loading
  · rw [same]

theorem Backed.turned {id : Nat} {caller : Caller K V E} {stage : Stage V E}
    {cache : Coalescing K (Loaded V)} (backed : Backed origin events id caller)
    (sound : (origin.run events).cache.entries.Sound fun entry =>
      Kept origin events entry.key entry.value entry.inserted)
    (ttl : (origin.run events).cache.entries.ttl = origin.cache.entries.ttl)
    (known : (origin.run events).callers[id]? = some caller)
    (turn : Turn (origin.run events) event id caller.key caller.stage cache stage) :
    Backed origin (events ++ [event]) id { caller with stage } := by
  obtain ⟨key, leader?, ticket?, stands⟩ := caller
  dsimp only at turn
  cases turn with
  | hit acts working gets =>
      have found := found_of_get sound ttl known (.inl rfl) acts working gets
      exact .inl (.found found)
  | hitAgain generation acts working gets =>
      have found := found_of_get sound ttl known (.inr ⟨generation, rfl⟩) acts working gets
      exact .found found
  | missedAgain | failedAgain | bypassed | alone => exact rfl
  | kept | outdated | unkept => exact .gave (backed.1.extend [event]) backed.2
  | emptied onward =>
      cases onward with
      | load => trivial
      | complete answer => exact backed.extend [event]
  | mended answer => exact Source.extend backed [event]
  | closed result =>
      cases result with
      | none => trivial
      | some answer => exact Source.extend backed [event]
  | returned answer => exact .inl (Source.extend backed [event])
  | answered answer =>
      obtain ⟨leader, knows, source⟩ := backed
      exact .inr ⟨leader, knows, source.extend [event]⟩
  | @finished _ _ result finishes goes =>
      unfold Stage.finish? at goes
      split at goes
      next load =>
        cases goes
        have gave := gave_of_finish known rfl backed finishes
        refine .inl (.gave gave ?_)
        rw [Answer.load_mark]
        exact backed
      next generation load =>
        have gave := gave_of_finish known rfl backed finishes
        cases result with
        | ok value =>
            cases goes
            exact ⟨gave, backed⟩
        | error error =>
            cases goes
            exact .gave gave backed
      next => cases goes
  | stopped goes =>
      unfold Stage.stop? at goes
      split at goes <;> cases goes <;> trivial
  | missed | failed | opened | began | dropped => trivial

/-- All that is known after some steps of a run has its source in them. -/
structure Traced (origin : Contention K V E) (events : List (Event K V E)) : Prop where
  ttl : (origin.run events).cache.entries.ttl = origin.cache.entries.ttl
  entries : (origin.run events).cache.entries.Sound fun entry =>
    Kept origin events entry.key entry.value entry.inserted
  backed : ∀ {id : Nat} {caller}, (origin.run events).callers[id]? = some caller →
    Backed origin events id caller
  joined : ∀ {id leader : Nat} {caller}, (origin.run events).callers[id]? = some caller →
    caller.leader? = some leader → Joined origin events id leader caller.key

theorem Traced.entries_step (traced : Traced origin events) (event : Event K V E) :
    let after := (origin.run events).step event
    after.cache.entries.ttl = origin.cache.entries.ttl ∧
      after.cache.entries.Sound fun entry =>
        Kept origin (events ++ [event]) entry.key entry.value entry.inserted := by
  intro after
  have kept (same : after.cache.generation = (origin.run events).cache.generation) :=
    traced.entries.mono fun entry stored => Kept.extend stored same
  rw [← traced.ttl]
  cases ((origin.run events).moved event).touched with
  | untouched entries generation =>
      change ((origin.run events).step event).cache.entries.ttl = _ ∧ _
      rw [entries]
      exact ⟨rfl, kept generation⟩
  | @looked key now found gets generation =>
      obtain ⟨entries', found', gets', sound, ttl, -⟩ := (kept generation).get key now
      cases gets.symm.trans gets'
      exact ⟨ttl, sound⟩
  | @stored id caller value now acts found storing inserts generation =>
      obtain ⟨gave, own⟩ : Gave origin events caller.key (.ok value) ∧ value.load.caller = id := by
        have backed := traced.backed found
        rwa [Backed, storing] at backed
      have stored (key : K) (equal : key == caller.key) :
          Kept origin (events ++ [event]) key value now := by
        refine ⟨events, event, [], rfl, ?_, gave.congr (BEq.symm equal), List.not_mem_nil, ?_⟩
        · subst own
          exact ⟨acts, caller, found, BEq.symm equal, storing, inserts⟩
        · intro early first
          rw [List.prefix_nil.mp first]
      obtain ⟨entries', inserts', sound, ttl⟩ := (kept generation).insert stored
      cases inserts.symm.trans inserts'
      exact ⟨ttl, sound⟩
  | emptied entries =>
      change ((origin.run events).step event).cache.entries.ttl = _ ∧ _
      rw [entries]
      exact ⟨rfl, traced.entries.clear _⟩

theorem Traced.step (traced : Traced origin events) (led : (origin.run events).Led)
    (event : Event K V E) : Traced origin (events ++ [event]) := by
  have split : origin.run (events ++ [event]) = (origin.run events).step event := run_append ..
  have moved := (origin.run events).moved event
  obtain ⟨ttl, entries⟩ := traced.entries_step event
  constructor
  case ttl => rw [split, ttl]
  case entries =>
    rw [split]
    exact entries
  case backed =>
    intro id caller found
    rw [split] at found
    rcases moved.caller_cases found with ⟨before, known, went⟩ | ⟨key, -, rfl⟩
    · have backed := traced.backed known
      cases went with
      | stayed => exact backed.extend [event]
      | turned turn => exact backed.turned traced.entries traced.ttl known turn
      | joined => trivial
      | @spoke result ticket rest tells =>
          cases result with
          | none => trivial
          | some answer =>
              rw [Backed, tells] at backed
              exact Source.extend backed [event]
      | @woken place teller result ticket rest waits holds found' tells =>
          cases result with
          | none => trivial
          | some answer =>
              have source := traced.backed found'
              rw [Backed, tells] at source
              have told : ticket ∈ teller.stage.tickets := by
                rw [tells]
                exact List.mem_cons_self
              obtain ⟨knows, equal⟩ :=
                (led.telling found' ticket told).2 before (List.mem_of_getElem? known) holds
              exact ⟨place, knows, (Source.congr (BEq.symm equal) source).extend [event]⟩
    · trivial
  case joined =>
    intro id leader caller found knows
    rw [split] at found
    rcases moved.caller_cases found with ⟨before, known, went⟩ | ⟨key, -, rfl⟩
    · have older (knew : before.leader? = some leader) := traced.joined known knew
      cases went with
      | @joined now acts joins =>
          exact ⟨events, now, before, acts ▸ List.prefix_refl _, known, joins,
            leads_of_leader? knows⟩
      | stayed | turned | spoke | woken => exact (older knows).extend [event]
    · cases knows

omit [EquivBEq K] [LawfulHashable K] in
theorem Traced.start (name : String) (capacity : Nat) (ttl : Span) :
    Traced (start name capacity ttl : Contention K V E) [] where
  ttl := rfl
  entries := .new capacity ttl _
  backed found := by cases found
  joined found := by cases found

theorem traced (name : String) (capacity : Nat) (ttl : Span) (events : List (Event K V E)) :
    Traced (Contention.start name capacity ttl) events := by
  induction events using List.reverseRecOn with
  | nil => exact .start name capacity ttl
  | append_singleton events event ih => exact ih.step ((Led.start name capacity ttl).run events) event

end Runs

/-! A value is stored while another caller is about to take the lead. That one finds it, and before it
says so the entries are emptied and a third caller joins. -/

def unused : Contention Nat Nat Nat := start "page" 16 (.ofSecs 30)

def storing : Contention Nat Nat Nat :=
  { cache :=
      { unused.cache with flights := [(7, [])], counters := (Counters.miss {}).miss }
    callers := [{ key := 7, stage := .storing 0 ⟨1, ⟨0, 4⟩⟩ }, { key := 7, stage := .joining }]
    moment := 8 }

end Roster.Cache.Contention
