import Roster.Proofs.Cache.Failures
import Roster.Proofs.Cache.Fetchers

namespace Roster.Cache

/-! Failures stay inside a cache whose callers fetch for themselves, too. -/

variable {K V E : Type} [BEq K] [Hashable K]

namespace Memo

variable {memo : Memo K V}

def lock (memo : Memo K V) : Lock := ⟨memo.poisoned, memo.stats.errors⟩

theorem keep_of_poisoned (poisoned : memo.poisoned = true) (key : K) (value : V) (now : Instant) :
    memo.keep key value now = memo.bypass := by
  rw [keep, withEntries, if_pos poisoned]

theorem look_of_poisoned (poisoned : memo.poisoned = true) (key : K) (now : Instant) :
    memo.look key now = (memo.bypass, none) := by
  rw [look, withEntries, if_pos poisoned]

variable [EquivBEq K] [LawfulHashable K] {good : Entry K V → Prop}

theorem lock_look (sound : memo.entries.Sound good) (key : K) (now : Instant) :
    (memo.look key now).1.lock = memo.lock.after .lookUp := by
  have looked := look_looked sound key now
  generalize memo.look key now = result at looked
  cases looked with
  | hit working | missed working =>
      simp [lock, Lock.after, working, stats, Counters.hit, Counters.miss]
  | reset poisoned => simp [lock, Lock.after, poisoned, bypass, clear, stats, Counters.error]

theorem lock_keep (sound : memo.entries.Sound good) (key : K) (value : V) (now : Instant) :
    (memo.keep key value now).lock = memo.lock.after .writeBack := by
  have kept : memo.Kept key value now (fun _ => True) (memo.keep key value now) :=
    keep_kept (sound.mono fun _ _ => trivial) fun _ _ => trivial
  generalize memo.keep key value now = result at kept
  cases kept with
  | stored working => simp [lock, Lock.after, working, stats, Counters.put]
  | reset poisoned => simp [lock, Lock.after, poisoned, bypass, clear, stats, Counters.error]

end Memo

/-- Fetches with this load, or has done so. -/
inductive Fetcher.Stage.Own (load : Load) : Fetcher.Stage V E → Prop
  | fetching : Own load (.fetching load)
  | returned (result : Except E V) : Own load (.returned (load.mark result))
  | stopped : Own load .stopped

namespace Fetchers

def use (fetchers : Fetchers K V E) : Event K V E → Use
  | .begin .. => .lookUp
  | .finish id (.ok _) _ =>
    match fetchers.callers[id]?.map Fetcher.stage with
    | some (.fetching _) => .writeBack
    | _ => .none
  | .finish _ (.error _) _ => .none
  | .resume _ => .none
  | .stop _ => .none
  | .clear => .clear
  | .poison => .poison

variable {fetchers after : Fetchers K V E} {event : Event K V E}
  {good : Entry K (Loaded V) → Prop}

/-- The end of a fetch writes back what it has brought, or leaves what is kept as it is. -/
theorem finish_cases (fetchers : Fetchers K V E) (id : Nat) (result : Except E V)
    (now : Instant) :
    (∃ caller load value, result = .ok value ∧ fetchers.callers[id]? = some caller ∧
      caller.stage = .fetching load ∧ fetchers.use (.finish id result now) = .writeBack ∧
      (fetchers.step (.finish id result now)).memo =
        fetchers.memo.keep caller.key ⟨value, load⟩ now) ∨
    fetchers.use (.finish id result now) = .none ∧
      (fetchers.step (.finish id result now)).memo = fetchers.memo := by
  cases found : fetchers.callers[id]? with
  | none =>
      refine .inr ⟨by cases result <;> simp [use, found], ?_⟩
      rw [step, found]
      rfl
  | some caller =>
      obtain ⟨key, began, stage⟩ := caller
      cases stage with
      | returned | stopped =>
          refine .inr ⟨by cases result <;> simp [use, found], ?_⟩
          rw [step, found]
          rfl
      | fetching load =>
          cases result with
          | error error =>
              refine .inr ⟨rfl, ?_⟩
              rw [step, found]
              rfl
          | ok value =>
              refine .inl ⟨_, load, value, rfl, rfl, rfl, by simp [use, found], ?_⟩
              rw [step, found]
              rfl

theorem stop_memo (fetchers : Fetchers K V E) (id : Nat) :
    (fetchers.step (.stop id)).memo = fetchers.memo := by
  rw [step]
  split <;> rfl

theorem emptied_step (poisoned : fetchers.memo.poisoned = true)
    (heals : (fetchers.use event).heals = true) :
    (fetchers.step event).memo.stats.entries = 0 := by
  have none : ∀ lru : Lru K (Loaded V), lru.clear.size = 0 := fun lru => Std.HashMap.size_empty
  cases event with
  | begin key now =>
      rw [step, Memo.look_of_poisoned poisoned]
      exact none fetchers.memo.entries
  | clear => exact none fetchers.memo.entries
  | poison | resume | stop => cases heals
  | finish id result now =>
      rcases fetchers.finish_cases id result now with
        ⟨caller, load, value, -, -, -, -, memo⟩ | ⟨uses, -⟩
      · rw [memo, Memo.keep_of_poisoned poisoned]
        exact none fetchers.memo.entries
      · rw [uses] at heals
        cases heals

/-- The fetch of a caller has ended in the course of a run, with this result. -/
def Gave (origin : Fetchers K V E) (events : List (Event K V E)) (id : Nat) (key : K)
    (answer : Answer V E) : Prop :=
  ∃ before caller result now, before ++ [.finish id result now] <+: events ∧
    (origin.run before).callers[id]? = some caller ∧ caller.key = key ∧
    caller.stage = .fetching answer.load ∧ answer = answer.load.mark result

theorem Gave.extend {origin : Fetchers K V E} {events : List (Event K V E)} {id : Nat} {key : K}
    {answer : Answer V E} (gave : Gave origin events id key answer) (later : List (Event K V E)) :
    Gave origin (events ++ later) id key answer := by
  obtain ⟨before, caller, result, now, early, rest⟩ := gave
  exact ⟨before, caller, result, now, early.trans (List.prefix_append events later), rest⟩

/-- How the failures of a cache end, and what its callers are given meanwhile, after a run and in the
step that comes next. -/
structure Contains (origin : Fetchers K V E) (ttl : Span) (events : List (Event K V E))
    (event : Event K V E) : Prop where
  lock : ((origin.run events).step event).memo.lock =
    (origin.run events).memo.lock.after ((origin.run events).use event)
  /-- Nothing but a look-up, a write-back or a clear ends a failure. -/
  lasts : (origin.run events).memo.poisoned = true → ∀ later,
    (∀ before event rest, later = before ++ event :: rest →
      (((origin.run events).run before).use event).heals = false) →
    ((origin.run events).run later).memo.lock = (origin.run events).memo.lock
  emptied : (origin.run events).memo.poisoned = true →
    ((origin.run events).use event).heals = true →
    ((origin.run events).step event).memo.stats.entries = 0
  /-- Whoever meets a failure when looking something up fetches. -/
  bypasses : ∀ key now, event = .begin key now → (origin.run events).memo.poisoned = true →
    ∀ later, ∃ caller,
      (((origin.run events).step event).run later).callers[(origin.run events).callers.length]? =
        some caller ∧
      caller.key = key ∧ caller.stage.Own ⟨(origin.run events).callers.length, events.length⟩
  /-- Whoever has fetched an answer keeps it, unless the lock is poisoned by then. -/
  keeps : ∀ id value now caller load, event = .finish id (.ok value) now →
    (origin.run events).callers[id]? = some caller → caller.stage = .fetching load →
    (origin.run events).memo.poisoned = false →
    (origin.run events).memo.entries.insert caller.key ⟨value, load⟩ now =
        .ok ((origin.run events).step event).memo.entries ∧
      ((origin.run events).step event).memo.stats.puts = (origin.run events).memo.stats.puts + 1
  /-- Callers return what was kept and is fresh, or what they have fetched. -/
  returns : ∀ (id : Nat) caller answer, (origin.run events).callers[id]? = some caller →
    caller.stage = .returned answer →
    (∃ value stored asked, answer = .ok value ∧
      events[caller.began]? = some (.begin caller.key asked) ∧
      (origin.run (events.take caller.began)).memo.poisoned = false ∧
      (origin.run (events.take caller.began)).memo.entries.Holds caller.key value stored ∧
      asked.nanos ≤ stored.nanos + ttl.nanos) ∨
    Gave origin events id caller.key answer
  /-- Nobody is stopped by anything but an event that stops it. -/
  stands : ∀ (id : Nat) caller, (origin.run events).callers[id]? = some caller →
    caller.stage = .stopped → .stop id ∈ events

variable [EquivBEq K] [LawfulHashable K]

theorem lock_step (sound : fetchers.memo.entries.Sound good) (event : Event K V E) :
    (fetchers.step event).memo.lock = fetchers.memo.lock.after (fetchers.use event) := by
  cases event with
  | begin key now => exact Memo.lock_look sound key now
  | clear | poison | resume => rfl
  | stop id =>
      rw [stop_memo]
      rfl
  | finish id result now =>
      rcases fetchers.finish_cases id result now with
        ⟨caller, load, value, -, -, -, uses, memo⟩ | ⟨uses, memo⟩
      · rw [memo, uses]
        exact Memo.lock_keep sound caller.key ⟨value, load⟩ now
      · rw [memo, uses]
        rfl

/-- An event that is a look-up finds what the entries hold. -/
theorem moved_looking (sound : fetchers.memo.entries.Sound good) (event : Event K V E) :
    fetchers.Moved (fun entry => ∀ key now, event = .begin key now → entry.key == key →
      fetchers.memo.entries.Holds key entry.value entry.inserted) event (fetchers.step event) := by
  refine moved_of (sound.holds.mono fun entry holds key _ _ => holds key) event ?_
  intro id value now caller load finishes _ _ stored _ key now' begins
  cases finishes.symm.trans begins

theorem step_sound (sound : fetchers.memo.entries.Sound fun _ => True) (event : Event K V E) :
    (fetchers.step event).memo.entries.Sound fun _ => True :=
  (moved_of sound event fun _ _ _ _ _ _ _ _ _ _ => trivial).entries_sound sound

theorem run_sound (sound : fetchers.memo.entries.Sound fun _ => True)
    (events : List (Event K V E)) : (fetchers.run events).memo.entries.Sound fun _ => True := by
  induction events generalizing fetchers with
  | nil => exact sound
  | cons event rest ih => exact ih (step_sound sound event)

theorem lasts_run (sound : fetchers.memo.entries.Sound fun _ => True)
    (poisoned : fetchers.memo.poisoned = true) (events : List (Event K V E))
    (fails : ∀ before event rest, events = before ++ event :: rest →
      ((fetchers.run before).use event).heals = false) :
    (fetchers.run events).memo.lock = fetchers.memo.lock := by
  induction events generalizing fetchers with
  | nil => rfl
  | cons event rest ih =>
      have same : (fetchers.step event).memo.lock = fetchers.memo.lock := by
        rw [lock_step sound]
        exact Lock.after_of_not_heals poisoned (fails [] event rest rfl)
      have still : (fetchers.step event).memo.poisoned = true :=
        (congrArg Lock.poisoned same).trans poisoned
      refine (ih (step_sound sound event) still fun before next after split => ?_).trans same
      exact fails (event :: before) next after (congrArg (event :: ·) split)

/-- Whoever fetches is not disturbed in it. -/
theorem own_run (sound : fetchers.memo.entries.Sound fun _ => True) {id : Nat}
    {caller : Fetcher K V E} {load : Load} (found : fetchers.callers[id]? = some caller)
    (own : caller.stage.Own load) (events : List (Event K V E)) :
    ∃ later, (fetchers.run events).callers[id]? = some later ∧ later.key = caller.key ∧
      later.stage.Own load := by
  induction events generalizing fetchers caller with
  | nil => exact ⟨caller, found, rfl, own⟩
  | cons event rest ih =>
      have moved := moved_of sound event fun _ _ _ _ _ _ _ _ _ _ => trivial
      obtain ⟨next, found', sameKey, -, went⟩ := moved.caller_after found
      have own' : next.stage.Own load := by
        rcases went with same | ⟨load', result?, fetching, -, ended⟩
        · exact same ▸ own
        · rw [fetching] at own
          cases own
          rw [ended]
          cases result? with
          | none => exact .stopped
          | some result => exact .returned result
      obtain ⟨later, last, sameKey', own''⟩ := ih (step_sound sound event) found' own'
      exact ⟨later, last, sameKey'.trans sameKey, own''⟩

/-- What is fetched is kept, as long as the lock is usable. -/
theorem kept_step (sound : fetchers.memo.entries.Sound fun _ => True) {id : Nat}
    {caller : Fetcher K V E} {load : Load} (found : fetchers.callers[id]? = some caller)
    (fetching : caller.stage = .fetching load) (working : fetchers.memo.poisoned = false)
    (value : V) (now : Instant) :
    fetchers.memo.entries.insert caller.key ⟨value, load⟩ now =
        .ok (fetchers.step (.finish id (.ok value) now)).memo.entries ∧
      (fetchers.step (.finish id (.ok value) now)).memo.stats.puts =
        fetchers.memo.stats.puts + 1 := by
  obtain ⟨key, began, stage⟩ := caller
  cases fetching
  have kept : fetchers.memo.Kept key ⟨value, load⟩ now (fun _ => True)
      (fetchers.memo.keep key ⟨value, load⟩ now) :=
    Memo.keep_kept sound fun _ _ => trivial
  have stepped : (fetchers.step (.finish id (.ok value) now)).memo =
      fetchers.memo.keep key ⟨value, load⟩ now := by
    rw [step, found]
    rfl
  rw [stepped]
  generalize fetchers.memo.keep key ⟨value, load⟩ now = memo at kept
  cases kept with
  | stored _ inserts => exact ⟨inserts, rfl⟩
  | reset poisoned => cases poisoned.symm.trans working

section Runs

variable (name : String) (capacity : Nat) (ttl : Span) (events : List (Event K V E))

omit [EquivBEq K] [LawfulHashable K] in
theorem start_sound :
    (start name capacity ttl : Fetchers K V E).memo.entries.Sound fun _ => True :=
  .new capacity ttl _

theorem ttl_run : ((start name capacity ttl).run events).memo.entries.ttl = ttl := by
  induction events using List.reverseRecOn with
  | nil => rfl
  | append_singleton events event ih =>
      have sound := run_sound (start_sound (E := E) name capacity ttl) events
      rw [run_append]
      exact (moved_of sound event fun _ _ _ _ _ _ _ _ _ _ => trivial).ttl_eq.trans ih

variable {events}

theorem began_run {id : Nat} {caller : Fetcher K V E}
    (found : ((start name capacity ttl).run events).callers[id]? = some caller) :
    caller.began < events.length := by
  induction events using List.reverseRecOn generalizing caller with
  | nil => cases found
  | append_singleton events event ih =>
      have sound := run_sound (start_sound (E := E) name capacity ttl) events
      have moved := moved_of sound event fun _ _ _ _ _ _ _ _ _ _ => trivial
      rw [run_append] at found
      rw [List.length_append, List.length_singleton]
      rcases moved.caller_cases found with ⟨before, known, -, began, -⟩ | ⟨-, _, _, _, _, -, -, rfl⟩
      · have earlier := ih known
        omega
      · change ((start name capacity ttl : Fetchers K V E).run events).moment < _
        rw [moment_run]
        change 0 + events.length < _
        omega

theorem returns_run {id : Nat} {caller : Fetcher K V E} {answer : Answer V E}
    (found : ((start name capacity ttl).run events).callers[id]? = some caller)
    (returned : caller.stage = .returned answer) :
    (∃ value stored asked, answer = .ok value ∧
      events[caller.began]? = some (.begin caller.key asked) ∧
      ((start name capacity ttl : Fetchers K V E).run
        (events.take caller.began)).memo.poisoned = false ∧
      ((start name capacity ttl : Fetchers K V E).run
        (events.take caller.began)).memo.entries.Holds caller.key value stored ∧
      asked.nanos ≤ stored.nanos + ttl.nanos) ∨
    Gave (start name capacity ttl) events id caller.key answer := by
  induction events using List.reverseRecOn generalizing caller with
  | nil => cases found
  | append_singleton events event ih =>
      have sound := run_sound (start_sound (E := E) name capacity ttl) events
      have moment : ((start name capacity ttl).run events).moment = 0 + events.length :=
        moment_run _ events
      rw [run_append] at found
      rcases (moved_looking sound event).caller_cases found with
        ⟨before, known, sameKey, began, went⟩ | ⟨-, key, now, memo, found?, begins, looked, rfl⟩
      · rw [sameKey, began, List.getElem?_append_left (began_run name capacity ttl known),
          List.take_append_of_le_length (Nat.le_of_lt (began_run name capacity ttl known))]
        rcases went with same | ⟨load, result?, fetching, ends, ended⟩
        · exact (ih known (same.symm.trans returned)).imp_right fun gave => gave.extend [event]
        · cases ends with
          | stop => cases ended.symm.trans returned
          | finish _ result now =>
              cases ended.symm.trans returned
              refine .inr ⟨events, before, result, now, List.prefix_refl _, known, rfl, ?_, ?_⟩
              · rwa [Answer.load_mark]
              · rw [Answer.load_mark]
      · cases looked with
        | missed | reset => cases returned
        | @hit entries entry working _ holds equal fresh =>
            cases returned
            refine .inl ⟨entry.value, entry.inserted, now, rfl, ?_⟩
            change (events ++ [event])[((start name capacity ttl).run events).moment]? = _ ∧
              ((start name capacity ttl).run ((events ++ [event]).take
                ((start name capacity ttl).run events).moment)).memo.poisoned = false ∧
              ((start name capacity ttl).run ((events ++ [event]).take
                ((start name capacity ttl).run events).moment)).memo.entries.Holds key _ _ ∧ _
            rw [moment, Nat.zero_add, List.getElem?_concat_length, List.take_left]
            refine ⟨congrArg some begins, working, holds key now begins equal, ?_⟩
            rw [ttl_run, Bool.eq_false_iff, Ne, Instant.outlives_iff] at fresh
            omega

theorem stands_run {id : Nat} {caller : Fetcher K V E}
    (found : ((start name capacity ttl).run events).callers[id]? = some caller)
    (stopped : caller.stage = .stopped) : .stop id ∈ events := by
  induction events using List.reverseRecOn generalizing caller with
  | nil => cases found
  | append_singleton events event ih =>
      have sound := run_sound (start_sound (E := E) name capacity ttl) events
      have moved := moved_of sound event fun _ _ _ _ _ _ _ _ _ _ => trivial
      rw [run_append] at found
      rcases moved.caller_cases found with
        ⟨before, known, -, -, same | ⟨load, result?, -, ends, ended⟩⟩ |
          ⟨-, key, now, memo, found?, -, -, rfl⟩
      · exact List.mem_append_left _ (ih known (same.symm.trans stopped))
      · cases ends with
        | stop => exact List.mem_append_right _ List.mem_cons_self
        | finish => cases ended.symm.trans stopped
      · cases found? <;> cases stopped

variable (events)

theorem contains (event : Event K V E) : (start name capacity ttl).Contains ttl events event := by
  have sound := run_sound (start_sound (E := E) name capacity ttl) events
  have moment : ((start name capacity ttl : Fetchers K V E).run events).moment = events.length :=
    (moment_run _ events).trans (Nat.zero_add _)
  exact {
    lock := lock_step sound event
    lasts := lasts_run sound
    emptied := emptied_step
    bypasses := by
      rintro key now rfl poisoned later
      have found : (((start name capacity ttl).run events).step (.begin key now)).callers[
          ((start name capacity ttl).run events).callers.length]? = some
            (((start name capacity ttl).run events).newcomer key none) := by
        rw [step, Memo.look_of_poisoned poisoned]
        exact List.getElem?_concat_length
      have own : (((start name capacity ttl : Fetchers K V E).run events).newcomer key
          none).stage.Own
            ⟨((start name capacity ttl).run events).callers.length, events.length⟩ :=
        moment ▸ .fetching
      exact own_run (step_sound sound _) found own later
    keeps := by
      rintro id value now caller load rfl found fetching working
      exact kept_step sound found fetching working value now
    returns := fun id caller answer found returned => returns_run name capacity ttl found returned
    stands := fun id caller found stopped => stands_run name capacity ttl found stopped }

end Runs

end Fetchers

section

variable [EquivBEq K] [LawfulHashable K]

/-- However calls, clears and failures follow one another, the failures of both kinds of caches stay
inside them. -/
theorem run_contained (name : String) (capacity : Nat) (ttl : Span) (events : List (Event K V E))
    (event : Event K V E) :
    (Traffic.start name capacity ttl).Contains ttl events event ∧
      (Fetchers.start name capacity ttl).Contains ttl events event :=
  ⟨Traffic.contains name capacity ttl events event, Fetchers.contains name capacity ttl events event⟩

end

/-- A failure while something is on its way. -/
theorem run_contained_midway :
    let events : List (Event Nat Nat Nat) := [.begin 7 ⟨0⟩, .poison]
    let traffic := (Traffic.start "page" 16 .zero).run events
    let fetchers := (Fetchers.start "response" 16 .zero).run events
    (traffic.cache.lock = ⟨true, 0⟩ ∧ (traffic.step (.begin 8 ⟨1⟩)).cache.lock = ⟨false, 1⟩ ∧
      (traffic.step (.begin 8 ⟨1⟩)).cache.stats.entries = 0) ∧
    fetchers.memo.lock = ⟨true, 0⟩ ∧ (fetchers.step (.begin 8 ⟨1⟩)).memo.lock = ⟨false, 1⟩ ∧
      (fetchers.step (.begin 8 ⟨1⟩)).memo.stats.entries = 0 := by
  intro events traffic fetchers
  obtain ⟨first, -⟩ := run_contained "page" 16 .zero [] (.begin 7 ⟨0⟩ : Event Nat Nat Nat)
  obtain ⟨-, first'⟩ := run_contained "response" 16 .zero [] (.begin 7 ⟨0⟩ : Event Nat Nat Nat)
  obtain ⟨next, -⟩ := run_contained "page" 16 .zero events (.begin 8 ⟨1⟩)
  obtain ⟨-, next'⟩ := run_contained "response" 16 .zero events (.begin 8 ⟨1⟩)
  have failed : traffic.cache.lock = ⟨true, 0⟩ :=
    congrArg (fun lock : Lock => { lock with poisoned := true }) first.lock
  have failed' : fetchers.memo.lock = ⟨true, 0⟩ :=
    congrArg (fun lock : Lock => { lock with poisoned := true }) first'.lock
  have healed := next.lock
  have healed' := next'.lock
  change _ = traffic.cache.lock.after _ at healed
  change _ = fetchers.memo.lock.after _ at healed'
  rw [failed] at healed
  rw [failed'] at healed'
  exact ⟨⟨failed, healed, next.emptied (congrArg Lock.poisoned failed) rfl⟩,
    failed', healed', next'.emptied (congrArg Lock.poisoned failed') rfl⟩

end Roster.Cache
