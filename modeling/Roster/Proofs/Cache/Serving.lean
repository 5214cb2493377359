import Roster.Proofs.Cache.History

namespace Roster.Cache

/-! What callers of a cache of answers are served. Whoever finds an answer is given it and fetches
nothing; whoever finds none fetches once and is given what its fetch has brought. -/

variable {K V E : Type}

/-- What the fetch of a caller comes to with an event, if it ends with it. -/
def Event.end? (id : Nat) : Event K V E → Option (Option (Except E V))
  | .finish other result _ => if other = id then some (some result) else none
  | .stop other => if other = id then some none else none
  | _ => none

namespace Fetcher

/-- Where a caller stands who may have been fetching when these events began. -/
def through (caller : Fetcher K V E) (id : Nat) (events : List (Event K V E)) : Fetcher K V E :=
  match caller.stage with
  | .fetching load =>
    { caller with stage := (events.findSome? (Event.end? id)).elim (.fetching load) (.ofEnd load) }
  | _ => caller

theorem through_nil (caller : Fetcher K V E) (id : Nat) : caller.through id [] = caller := by
  obtain ⟨key, began, stage⟩ := caller
  cases stage <;> rfl

/-- The first event that ends a fetch decides. -/
theorem through_cons (caller : Fetcher K V E) (id : Nat) (event : Event K V E)
    (rest : List (Event K V E)) :
    caller.through id (event :: rest) = (caller.through id [event]).through id rest := by
  obtain ⟨key, began, stage⟩ := caller
  cases stage with
  | returned | stopped => rfl
  | fetching load =>
      simp only [through, List.findSome?_cons]
      cases event.end? id with
      | none => rfl
      | some result? => cases result? <;> rfl

theorem through_of_ends {caller : Fetcher K V E} {id : Nat} {event : Event K V E} {load : Load}
    {result? : Option (Except E V)} (fetching : caller.stage = .fetching load)
    (ends : event.end? id = some result?) :
    caller.through id [event] = { caller with stage := .ofEnd load result? } := by
  rw [through, fetching]
  simp only [List.findSome?_cons, ends]
  cases result? <;> rfl

theorem through_of_goes_on {caller : Fetcher K V E} {id : Nat} {event : Event K V E}
    (goesOn : ∀ load, caller.stage = .fetching load → event.end? id = none) :
    caller.through id [event] = caller := by
  obtain ⟨key, began, stage⟩ := caller
  cases stage with
  | returned | stopped => rfl
  | fetching load => simp [through, goesOn load rfl]

end Fetcher

namespace Fetchers

variable [BEq K] [Hashable K]

def written (fetchers : Fetchers K V E) (id : Nat) (value : V) (now : Instant) :
    Memo.Act K (Loaded V) :=
  match fetchers.callers[id]? with
  | some ⟨key, _, .fetching load⟩ => .keep key ⟨value, load⟩ now
  | _ => .idle

def act (fetchers : Fetchers K V E) : Event K V E → Memo.Act K (Loaded V)
  | .begin key now => .look key now
  | .finish id (.ok value) now => fetchers.written id value now
  | .finish _ (.error _) _ => .idle
  | .stop _ => .idle
  | .resume _ => .idle
  | .clear => .clear
  | .poison => .poison

def acts (fetchers : Fetchers K V E) (events : List (Event K V E)) :
    List (Memo.Act K (Loaded V)) :=
  Memo.actsOf step act fetchers events

variable {fetchers origin : Fetchers K V E} {event : Event K V E}

theorem memo_step (fetchers : Fetchers K V E) (event : Event K V E) :
    (fetchers.step event).memo = fetchers.memo.after (fetchers.act event) := by
  cases event with
  | begin | clear | poison | resume => rfl
  | stop id => exact fetchers.stop_memo id
  | finish id result now =>
      cases result with
      | error error =>
          rw [step]
          split <;> rfl
      | ok value =>
          cases found : fetchers.callers[id]? with
          | none =>
              rw [step, act, written, found]
              rfl
          | some caller =>
              obtain ⟨key, began, stage⟩ := caller
              rw [step, act, written, found]
              cases stage <;> rfl

theorem memo_run (fetchers : Fetchers K V E) (events : List (Event K V E)) :
    (fetchers.run events).memo = fetchers.memo.through (fetchers.acts events) :=
  Memo.through_actsOf step act memo memo_step fetchers events

theorem gave_of_keep {events : List (Event K V E)} {before since : List (Memo.Act K (Loaded V))}
    {key : K} {value : Loaded V} {stored : Instant}
    (split : origin.acts events = before ++ .keep key value stored :: since) :
    ∃ id, Gave origin events id key (.ok value) := by
  obtain ⟨earlier, event, later, rfl, -, same⟩ := Memo.actsOf_split step act split
  change (origin.run earlier).act event = _ at same
  cases event with
  | finish id result now =>
      cases result with
      | error => cases same
      | ok content =>
          rw [act, written] at same
          split at same
          · rename_i own began load found
            cases same
            exact ⟨id, earlier, _, .ok content, stored, ⟨later, by simp⟩, found, rfl, rfl, rfl⟩
          · cases same
  | _ => cases same

theorem begin_of_look {events : List (Event K V E)} {key : K} {now : Instant}
    (looks : .look key now ∈ origin.acts events) : .begin key now ∈ events := by
  obtain ⟨before, since, split⟩ := List.append_of_mem looks
  obtain ⟨earlier, event, later, rfl, -, same⟩ := Memo.actsOf_split step act split
  change (origin.run earlier).act event = _ at same
  cases event with
  | begin =>
      cases same
      exact List.mem_append_right _ List.mem_cons_self
  | finish id result now =>
      cases result with
      | error => cases same
      | ok content =>
          rw [act, written] at same
          split at same <;> cases same
  | _ => cases same

/-! Callers. -/

section Ends

variable {id other : Nat} {caller : Fetcher K V E} {result? : Option (Except E V)}

theorem callers_settle (found : fetchers.callers[id]? = some caller) {key : K} {began : Nat}
    {load : Load} (fetching : fetchers.callers[other]? = some ⟨key, began, .fetching load⟩)
    (ends : event.end? id = if other = id then some result? else none)
    (memo : Memo K (Loaded V)) :
    (fetchers.settle other memo (.ofEnd load result?)).callers[id]? =
      some (caller.through id [event]) := by
  rw [settle, go, List.getElem?_modify, found, Option.map_eq_map, Option.map_some]
  by_cases mine : other = id
  · subst mine
    cases found.symm.trans fetching
    rw [if_pos rfl] at ends ⊢
    exact congrArg some (Fetcher.through_of_ends rfl ends).symm
  · rw [if_neg mine] at ends ⊢
    exact congrArg some (Fetcher.through_of_goes_on fun _ _ => ends).symm

theorem through_of_idle (found : fetchers.callers[id]? = some caller)
    (idle : ∀ key began load, fetchers.callers[other]? ≠ some ⟨key, began, .fetching load⟩)
    (ends : event.end? id = if other = id then some result? else none) :
    caller.through id [event] = caller := by
  refine Fetcher.through_of_goes_on fun load fetching => ends.trans (if_neg fun mine => ?_)
  obtain ⟨key, began, stage⟩ := caller
  cases fetching
  exact idle key began load (mine ▸ found)

end Ends

/-- A fetch ends with the events that end it, and nothing else touches a caller. -/
theorem callers_step {id : Nat} {caller : Fetcher K V E} (found : fetchers.callers[id]? = some caller)
    (event : Event K V E) :
    (fetchers.step event).callers[id]? = some (caller.through id [event]) := by
  have same (goesOn : event.end? id = none) : caller.through id [event] = caller :=
    Fetcher.through_of_goes_on fun _ _ => goesOn
  cases event with
  | clear | poison | resume => rwa [same rfl]
  | begin key now =>
      rw [same rfl, ← found]
      exact List.getElem?_append_left (List.getElem?_eq_some_iff.mp found).1
  | finish other result now =>
      rw [step]
      split
      · rename_i key began load fetching
        exact callers_settle found fetching rfl _
      · rename_i idle
        rwa [through_of_idle found idle rfl]
  | stop other =>
      rw [step]
      split
      · rename_i key began load fetching
        exact callers_settle found fetching rfl _
      · rename_i idle
        rwa [through_of_idle found idle rfl]

theorem callers_run {id : Nat} {caller : Fetcher K V E} (found : fetchers.callers[id]? = some caller)
    (events : List (Event K V E)) :
    (fetchers.run events).callers[id]? = some (caller.through id events) := by
  induction events generalizing fetchers caller with
  | nil => rwa [Fetcher.through_nil]
  | cons event rest ih =>
      rw [Fetcher.through_cons]
      exact ih (callers_step found event)

theorem newcomer_begin (fetchers : Fetchers K V E) (key : K) (asked : Instant) :
    (fetchers.step (.begin key asked)).callers[fetchers.callers.length]? =
      some (fetchers.newcomer key (fetchers.memo.look key asked).2) :=
  List.getElem?_concat_length

/-- The first caller finds nothing and fetches. -/
theorem step_begin_new (name : String) (capacity : Nat) (ttl : Span) (key : K) (now : Instant) :
    (start name capacity ttl : Fetchers K V E).step (.begin key now) =
      { memo := { Memo.new name capacity ttl with counters := Counters.miss {} }
        callers := [⟨key, 0, .fetching ⟨0, 0⟩⟩]
        moment := 1 } := by
  rw [step, start, Memo.look_new]
  rfl

/-- What becomes of a call that begins after these events, and of what was fetched before. -/
structure Remembers (origin : Fetchers K V E) (capacity : Nat) (ttl : Span)
    (events : List (Event K V E)) : Prop where
  /-- Whoever finds an answer is given it and fetches nothing. The answer was fetched for the key, it
  is not too old, and nothing was kept for the key nor were the entries emptied since. -/
  hit : ∀ key asked value, ((origin.run events).memo.look key asked).2 = some value →
    (∃ stored, origin.memo.Retained (origin.acts events) key value stored ∧
      asked.nanos ≤ stored.nanos + ttl.nanos) ∧
    (∃ id own, own == key ∧ Gave origin events id own (.ok value)) ∧
    ∀ later, (origin.run (events ++ .begin key asked :: later)).callers[
        (origin.run events).callers.length]? =
      some ⟨key, events.length, .returned (.ok value)⟩
  /-- Whoever finds none fetches, until its fetch ends or it is stopped, and is given what it has
  fetched. -/
  miss : ∀ key asked, ((origin.run events).memo.look key asked).2 = none → ∀ later,
    let id := (origin.run events).callers.length
    (origin.run (events ++ .begin key asked :: later)).callers[id]? =
      some ⟨key, events.length,
        (later.findSome? (Event.end? id)).elim (.fetching ⟨id, events.length⟩)
          (.ofEnd ⟨id, events.length⟩)⟩
  /-- A fetch that fails changes nothing. -/
  failing : ∀ id error now,
    ((origin.run events).step (.finish id (.error error) now)).memo = (origin.run events).memo
  /-- What was kept is given to whoever asks for it in time, unless it is lost before or when it is
  asked for. -/
  lasting : ∀ id own began load value stored,
    (origin.run events).callers[id]? = some ⟨own, began, .fetching load⟩ →
    (origin.run events).memo.poisoned = false → capacity ≠ 0 → ∀ between key asked, own == key →
    (∀ other now, .begin other now ∈ between → now.nanos ≤ asked.nanos) →
    asked.nanos ≤ stored.nanos + ttl.nanos →
    let kept := (origin.run events).step (.finish id (.ok value) stored)
    ((kept.run between).step (.begin key asked)).callers[(kept.run between).callers.length]?.map
        Fetcher.stage = some (.returned (.ok ⟨value, load⟩)) ∨
      ∃ first event rest, between ++ [.begin key asked] = first ++ event :: rest ∧
        (kept.run first).memo.Loses ((kept.run first).act event) key

section Runs

variable [EquivBEq K] [LawfulHashable K] (name : String) (capacity : Nat) (ttl : Span)
  (events : List (Event K V E))

variable {events}

theorem retained_of_look {key : K} {asked : Instant} {value : Loaded V}
    (found : (((start name capacity ttl).run events).memo.look key asked).2 = some value) :
    ∃ stored, (start name capacity ttl : Fetchers K V E).memo.Retained
        ((start name capacity ttl).acts events) key value stored ∧
      asked.nanos ≤ stored.nanos + ttl.nanos := by
  rw [memo_run] at found
  exact Memo.retained_of_look (.new capacity ttl _) found

theorem lasting_run {id : Nat} {own : K} {began : Nat} {load : Load}
    (fetching : ((start name capacity ttl).run events).callers[id]? =
      some (⟨own, began, .fetching load⟩ : Fetcher K V E))
    (working : ((start name capacity ttl : Fetchers K V E).run events).memo.poisoned = false)
    (room : capacity ≠ 0) (value : V) {stored asked : Instant} (between : List (Event K V E))
    {key : K} (equal : own == key)
    (early : ∀ other now, .begin other now ∈ between → now.nanos ≤ asked.nanos)
    (fresh : asked.nanos ≤ stored.nanos + ttl.nanos) :
    let kept := ((start name capacity ttl).run events).step (.finish id (.ok value) stored)
    ((kept.run between).memo.look key asked).2 = some ⟨value, load⟩ ∨
      ∃ first event rest, between ++ [.begin key asked] = first ++ event :: rest ∧
        (kept.run first).memo.Loses ((kept.run first).act event) key := by
  have origin : (start name capacity ttl : Fetchers K V E).memo.entries.Sound fun _ => True :=
    start_sound name capacity ttl
  obtain ⟨sound, ttl_eq, capacity_eq⟩ :=
    Memo.through_sound origin ((start name capacity ttl : Fetchers K V E).acts events)
  rw [← memo_run] at sound ttl_eq capacity_eq
  have keeps : ((start name capacity ttl).run events).act (.finish id (.ok value) stored) =
      .keep own ⟨value, load⟩ stored := by
    rw [act, written, fetching]
  exact Memo.look_of_kept step act memo memo_step sound keeps working (capacity_eq ▸ room) equal
    (fun _ => rfl) between (fun looked now looks => early looked now (begin_of_look looks))
    (ttl_eq ▸ fresh)

variable (events)

omit [EquivBEq K] [LawfulHashable K] in
theorem newcomer_run (key : K) (asked : Instant) :
    (((start name capacity ttl).run events).step (.begin key asked)).callers[
        ((start name capacity ttl : Fetchers K V E).run events).callers.length]? =
      some ⟨key, events.length,
        (((start name capacity ttl).run events).memo.look key asked).2.elim
          (.fetching ⟨((start name capacity ttl : Fetchers K V E).run events).callers.length,
            events.length⟩)
          fun value => .returned (.ok value)⟩ := by
  have moment : ((start name capacity ttl : Fetchers K V E).run events).moment = events.length :=
    (moment_run _ events).trans (Nat.zero_add _)
  rw [newcomer_begin]
  unfold newcomer
  rw [moment]
  cases (((start name capacity ttl).run events).memo.look key asked).2 <;> rfl

theorem remembers :
    (start name capacity ttl : Fetchers K V E).Remembers capacity ttl events where
  hit key asked value found := by
    refine ⟨retained_of_look name capacity ttl found, ?_, fun later => ?_⟩
    · obtain ⟨stored, ⟨before, since, own, split, equal, -, -⟩, -⟩ :=
        retained_of_look name capacity ttl found
      obtain ⟨id, gave⟩ := gave_of_keep split
      exact ⟨id, own, equal, gave⟩
    · have began := newcomer_run name capacity ttl events key asked
      rw [found] at began
      rw [run_append]
      exact callers_run began later
  miss key asked missed later := by
    have began := newcomer_run name capacity ttl events key asked
    rw [missed] at began
    rw [run_append]
    exact callers_run began later
  failing id error now := memo_step _ _
  lasting id own began load value stored fetching working room between key asked equal early
      fresh := by
    refine (lasting_run name capacity ttl fetching working room value between equal early
      fresh).imp_left fun found => ?_
    rw [newcomer_begin, found]
    rfl

end Runs

end Fetchers

end Roster.Cache
