import Mathlib.Data.List.Induction
import Roster.Cache.Fetchers
import Roster.Proofs.Cache.Fetching
import Roster.Proofs.Cache.Traffic

namespace Roster.Cache

/-! What one step does to callers that fetch for themselves. -/

variable {K V E : Type}

namespace Fetchers

variable [BEq K] [Hashable K]

variable {fetchers after : Fetchers K V E} {event : Event K V E}
  {good : Entry K (Loaded V) → Prop}

theorem run_append (events later : List (Event K V E)) :
    fetchers.run (events ++ later) = (fetchers.run events).run later :=
  List.foldl_append

theorem moment_step (fetchers : Fetchers K V E) (event : Event K V E) :
    (fetchers.step event).moment = fetchers.moment + 1 := by
  cases event with
  | begin | clear | poison | resume => rfl
  | finish | stop =>
      rw [step]
      split <;> rfl

theorem moment_run (fetchers : Fetchers K V E) (events : List (Event K V E)) :
    (fetchers.run events).moment = fetchers.moment + events.length := by
  induction events generalizing fetchers with
  | nil => rfl
  | cons event rest ih =>
      change ((fetchers.step event).run rest).moment = _
      rw [ih, moment_step, List.length_cons]
      omega

/-- What an event can do to the callers and to what is kept. -/
inductive Moved (fetchers : Fetchers K V E) (good : Entry K (Loaded V) → Prop)
    (event : Event K V E) : Fetchers K V E → Prop
  | idle {memo : Memo K (Loaded V)} (sound : memo.entries.Sound good)
      (ttl : memo.entries.ttl = fetchers.memo.entries.ttl) :
      Moved fetchers good event (fetchers.go memo fetchers.callers)
  | looked {key : K} {now : Instant} {memo : Memo K (Loaded V)} {found : Option (Loaded V)}
      (begins : event = .begin key now)
      (looked : fetchers.memo.Looked key now good (memo, found)) :
      Moved fetchers good event
        (fetchers.go memo (fetchers.callers ++ [fetchers.newcomer key found]))
  | ended {id : Nat} {caller : Fetcher K V E} {load : Load} {result? : Option (Except E V)}
      {memo : Memo K (Loaded V)} (ends : event.Ends id result?)
      (found : fetchers.callers[id]? = some caller) (fetches : caller.stage = .fetching load)
      (sound : memo.entries.Sound good) (ttl : memo.entries.ttl = fetchers.memo.entries.ttl) :
      Moved fetchers good event (fetchers.settle id memo (.ofEnd load result?))

/-- A caller after a step was there before, with the same key, or it has just begun. -/
theorem Moved.caller_cases (moved : fetchers.Moved good event after) {id : Nat}
    {caller : Fetcher K V E} (found : after.callers[id]? = some caller) :
    (∃ before, fetchers.callers[id]? = some before ∧ caller.key = before.key ∧
      caller.began = before.began ∧
      (caller.stage = before.stage ∨ ∃ load result?, before.stage = .fetching load ∧
        event.Ends id result? ∧ caller.stage = .ofEnd load result?)) ∨
    id = fetchers.callers.length ∧ ∃ key now memo found?, event = .begin key now ∧
      fetchers.memo.Looked key now good (memo, found?) ∧
        caller = fetchers.newcomer key found? := by
  cases moved with
  | idle => exact .inl ⟨caller, found, rfl, rfl, .inl rfl⟩
  | looked begins looked =>
      rw [go, List.getElem?_append] at found
      split at found
      · exact .inl ⟨caller, found, rfl, rfl, .inl rfl⟩
      · rename_i beyond
        have bounded := (List.getElem?_eq_some_iff.mp found).1
        rw [List.length_singleton] at bounded
        have last : id = fetchers.callers.length := by omega
        subst last
        rw [Nat.sub_self] at found
        cases found
        exact .inr ⟨rfl, _, _, _, _, begins, looked, rfl⟩
  | @ended mover before load result? memo ends known fetches =>
      rw [settle, go, List.getElem?_modify] at found
      obtain ⟨other, known', rfl⟩ := Option.map_eq_some_iff.mp found
      refine .inl ⟨other, known', ?_⟩
      split
      · rename_i same
        cases same
        cases known.symm.trans known'
        exact ⟨rfl, rfl, .inr ⟨load, result?, fetches, ends, rfl⟩⟩
      · exact ⟨rfl, rfl, .inl rfl⟩

/-- Nobody who is there goes away. -/
theorem Moved.caller_after (moved : fetchers.Moved good event after) {id : Nat}
    {caller : Fetcher K V E} (found : fetchers.callers[id]? = some caller) :
    ∃ next, after.callers[id]? = some next ∧ next.key = caller.key ∧
      next.began = caller.began ∧
      (next.stage = caller.stage ∨ ∃ load result?, caller.stage = .fetching load ∧
        event.Ends id result? ∧ next.stage = .ofEnd load result?) := by
  have remains : ∃ next, after.callers[id]? = some next := by
    have bounded := (List.getElem?_eq_some_iff.mp found).1
    suffices longer : fetchers.callers.length ≤ after.callers.length from
      ⟨_, List.getElem?_eq_getElem (Nat.lt_of_lt_of_le bounded longer)⟩
    cases moved with
    | idle => exact Nat.le_refl _
    | looked => simp [go]
    | ended => simp [settle, go]
  obtain ⟨next, found'⟩ := remains
  rcases moved.caller_cases found' with
    ⟨before, known, sameKey, sameMoment, went⟩ | ⟨beyond, -⟩
  · cases known.symm.trans found
    exact ⟨next, found', sameKey, sameMoment, went⟩
  · have bounded := (List.getElem?_eq_some_iff.mp found).1
    omega

theorem Moved.entries_sound (moved : fetchers.Moved good event after)
    (sound : fetchers.memo.entries.Sound good) : after.memo.entries.Sound good := by
  cases moved with
  | idle sound' => exact sound'
  | looked _ looked => exact looked.entries_sound sound
  | ended _ _ _ sound' => exact sound'

theorem Moved.ttl_eq (moved : fetchers.Moved good event after) :
    after.memo.entries.ttl = fetchers.memo.entries.ttl := by
  cases moved with
  | idle _ ttl => exact ttl
  | looked _ looked => exact looked.ttl_eq
  | ended _ _ _ _ ttl => exact ttl

variable [EquivBEq K] [LawfulHashable K]

/-- Whatever is known of the entries stays known; of a new one it has to be known when it is kept. -/
theorem moved_of (sound : fetchers.memo.entries.Sound good) (event : Event K V E)
    (safe : ∀ id value now caller load, event = .finish id (.ok value) now →
      fetchers.callers[id]? = some caller → caller.stage = .fetching load →
      ∀ stored, stored == caller.key → good ⟨stored, ⟨value, load⟩, now⟩) :
    fetchers.Moved good event (fetchers.step event) := by
  cases event with
  | begin key now => exact .looked rfl (Memo.look_looked sound key now)
  | clear => exact .idle (sound.clear good) rfl
  | poison => exact .idle sound rfl
  | resume => exact .idle sound rfl
  | stop id =>
      rw [step]
      split
      · rename_i found
        exact .ended (.stop id) found rfl sound rfl
      · exact .idle sound rfl
  | finish id result now =>
      rw [step]
      split
      · rename_i key began load found
        cases result with
        | error error => exact .ended (.finish id (.error error) now) found rfl sound rfl
        | ok value =>
            have kept := Memo.keep_kept sound (safe id value now _ load rfl found rfl)
            refine .ended (.finish id (.ok value) now) found rfl (kept.entries_sound sound) ?_
            exact kept.ttl_eq
      · exact .idle sound rfl

end Fetchers

end Roster.Cache
