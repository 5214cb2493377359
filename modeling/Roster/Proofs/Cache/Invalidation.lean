import Roster.Proofs.Cache.Provenance

namespace Roster.Cache.Traffic

/-! What clearing a cache means for those who call afterwards. The entries hold nothing older than
the clear, but a flight that was opened before it can still be joined. -/

variable {K V E : Type} [BEq K] [Hashable K] {traffic after : Traffic K V E}

/-- All entries are younger than a moment, and so is every answer to a call that began after it,
unless it comes from the leader of a flight that the call has joined. -/
structure Renewed (traffic : Traffic K V E) (since : Nat) : Prop where
  steady : traffic.Steady fun entry => since < entry.value.load.started
  since_lt : since < traffic.moment
  returned : ∀ {caller answer}, caller ∈ traffic.callers → caller.stage = .returned answer →
    since < caller.began →
    caller.leader? = some answer.load.caller ∨ since < answer.load.started

variable [EquivBEq K]

omit [EquivBEq K] in
theorem Orderly.renewed (orderly : traffic.Orderly) (traced : traffic.Traced) :
    (traffic.step .clear).Renewed traffic.moment where
  steady :=
    ⟨orderly.steady.entries_sound.clear _, fun caller member =>
      (orderly.steady.callers_steady caller member).outdated (Nat.lt_succ_self _) _⟩
  since_lt := Nat.lt_succ_self _
  returned member _ young := absurd (traced.began_lt member) (Nat.lt_asymm young)

theorem Moved.renewed {event : Event K V E} {since : Nat}
    (moved : traffic.Moved (fun entry => since < entry.value.load.started) event after)
    (orderly : traffic.Orderly) (traced : traffic.Traced) (renewed : traffic.Renewed since) :
    after.Renewed since where
  steady := moved.steady renewed.steady fun _ _ _ => renewed.since_lt
  since_lt := by
    rw [moved.moment_eq]
    exact Nat.lt_succ_of_lt renewed.since_lt
  returned {caller answer} member answered young := by
    obtain ⟨id, found⟩ := List.mem_iff_getElem?.mp member
    rcases moved.caller_cases orderly.ticketed found with
      ⟨before, known, -, began, sameLeader, went⟩ | ⟨-, key, now, cache, begin, -, begun, rfl⟩
    · rw [sameLeader]
      rw [began] at young
      have old := List.mem_of_getElem? known
      have ownLoader {call load} (loading : before.stage = .loading call load) :
          since < load.started :=
        Nat.lt_of_lt_of_le young (traced.loading known loading).2
      generalize caller.stage = stage at went answered
      cases went with
      | stayed => exact renewed.returned old answered young
      | turned turn =>
          generalize stands : before.stage = stood at turn
          cases turn with
          | loaded load result =>
              cases answered
              exact .inr (by rw [Answer.load_mark]; exact ownLoader stands)
          | answered =>
              cases answered
              exact .inl (traced.told old stands)
          | _ => cases answered
      | ended loading result? =>
          cases result? with
          | none => cases answered
          | some result =>
              cases answered
              exact .inr (by rw [Answer.load_mark]; exact ownLoader loading)
      | woken => cases answered
    · cases begun with
      | hit working sound fresh equal =>
          cases answered
          exact .inr fresh
      | _ => cases answered

variable [LawfulHashable K]

theorem Renewed.run {since : Nat} (renewed : traffic.Renewed since) (orderly : traffic.Orderly)
    (traced : traffic.Traced) (events : List (Event K V E)) :
    (traffic.run events).Renewed since := by
  induction events generalizing traffic with
  | nil => exact renewed
  | cons event rest ih =>
      exact ih ((renewed.steady.moved event).renewed orderly traced renewed) (orderly.step event)
        ((orderly.steady.moved event).traced orderly.led orderly.ticketed traced)

/-- A call that begins after a clear is given something that was loaded from before the clear only
if it has joined a flight that was still there when it began, and then by the leader of that flight
itself. From the entries and from its own loader it gets nothing so old. -/
theorem run_clear (name : String) (capacity : Nat) (ttl : Span)
    (before after : List (Event K V E)) :
    let events := before ++ .clear :: after
    ∀ caller ∈ ((start name capacity ttl).run events).callers, ∀ answer,
      before.length < caller.began → caller.stage = .returned answer →
      before.length < answer.load.started ∨
        caller.leader? = some answer.load.caller ∧
          ((start name capacity ttl).run (events.take caller.began)).Leads answer.load.caller
            caller.key := by
  intro events caller member answer young answered
  have origin : (start name capacity ttl : Traffic K V E).Orderly := .start name capacity ttl
  have orderly := origin.run before
  have traced := (Traced.start name capacity ttl).run origin before
  have moment : ((start name capacity ttl).run before).moment = 0 + before.length :=
    origin.moment_run before
  have cleared := orderly.steady.moved .clear
  have renewed := (orderly.renewed traced).run (orderly.step .clear)
    (cleared.traced orderly.led orderly.ticketed traced) after
  have run_eq : (start name capacity ttl).run events =
      (((start name capacity ttl).run before).step .clear).run after :=
    run_append before (.clear :: after)
  rw [moment, Nat.zero_add, ← run_eq] at renewed
  rcases renewed.returned member answered young with joined | fresh
  · exact .inr ⟨joined, leads_at_begin name capacity ttl events member joined⟩
  · exact .inl fresh

/-! A run in which a flight is opened before a clear and joined after it. -/

theorem callers_joined_late :
    ((start "page" 16 .zero : Traffic Nat Nat Nat).run
      [.begin 7 ⟨0⟩, .clear, .begin 7 ⟨1⟩, .finish 0 (.ok 1) ⟨2⟩, .resume 1]).callers =
      [{ key := 7, began := 0, stage := .returned (.ok ⟨1, ⟨0, 0⟩⟩) },
        { key := 7, began := 2, leader? := some 0, ticket? := some ⟨0⟩,
          notices := [some (.ok ⟨1, ⟨0, 0⟩⟩)], stage := .returned (.ok ⟨1, ⟨0, 0⟩⟩) }] := by
  rw [run, List.foldl_cons, step_begin_new, List.foldl_cons, List.foldl_cons, step,
    Coalescing.begin_of_joined rfl (Lru.get_of_empty rfl 7 ⟨1⟩) rfl]
  rfl

theorem run_clear_joined_late :
    ((start "page" 16 .zero : Traffic Nat Nat Nat).run [.begin 7 ⟨0⟩, .clear]).Leads 0 7 := by
  have sources := run_clear "page" 16 .zero [.begin 7 ⟨0⟩]
    [.begin 7 ⟨1⟩, .finish 0 (.ok 1) ⟨2⟩, .resume 1] (E := Nat) _
    (by rw [List.singleton_append, callers_joined_late]; exact .tail _ (.head _))
    (.ok ⟨1, ⟨0, 0⟩⟩) (by decide) rfl
  rcases sources with fresh | ⟨-, leads⟩
  · exact absurd fresh (by decide)
  · exact leads

/-- A call that begins after a clear can be given a value whose loader was started before it. -/
theorem not_run_clear_fresh :
    ¬ ∀ (before after : List (Event Nat Nat Nat)),
      ∀ caller ∈ ((start "page" 16 .zero).run (before ++ .clear :: after)).callers, ∀ value,
        before.length < caller.began → caller.stage = .returned (.ok value) →
        before.length < value.load.started := by
  intro fresh
  have young := fresh [.begin 7 ⟨0⟩] [.begin 7 ⟨1⟩, .finish 0 (.ok 1) ⟨2⟩, .resume 1] _
    (by rw [List.singleton_append, callers_joined_late]; exact .tail _ (.head _))
    ⟨1, ⟨0, 0⟩⟩ (by decide) rfl
  exact absurd young (by decide)

end Roster.Cache.Traffic
