import Mathlib.Data.List.Induction
import Roster.Proofs.Cache.Flights

namespace Roster.Cache.Traffic

/-! Where the answers of callers come from: from loaders of their own, from the callers whose flights
they joined, or from the entries. -/

variable {K V E : Type} [BEq K] [Hashable K] {traffic after : Traffic K V E}
  {good : Entry K (Loaded V) → Prop} {event : Event K V E}

inductive Went (traffic : Traffic K V E) (event : Event K V E) (id : Nat)
    (caller : Caller K V E) : Stage K V E → Prop
  | stayed : Went traffic event id caller caller.stage
  | turned {stage : Stage K V E} (turn : Turn traffic event id caller.stage stage) :
      Went traffic event id caller stage
  | ended {call : Coalescing.Call K} {load : Load} (loading : caller.stage = .loading call load)
      (result? : Option (Except E V)) (ends : event.Ends id result?) :
      Went traffic event id caller (load.outcome result?)
  | woken {place : Nat} {leader : Caller K V E} {call : Coalescing.Call K} {load : Load}
      (waits : caller.stage = .waiting) (found : traffic.callers[place]? = some leader)
      (leads : leader.leads caller.key) (loading : leader.stage = .loading call load)
      (result? : Option (Except E V)) (ends : event.Ends place result?) :
      Went traffic event id caller (.told (result?.map load.mark))

/-- A caller after a step was there before, with the same key and the same leader, or it has just
begun. -/
theorem Moved.caller_cases [EquivBEq K] (moved : traffic.Moved good event after)
    (ticketed : traffic.Ticketed) {id : Nat} {caller : Caller K V E}
    (found : after.callers[id]? = some caller) :
    (∃ before, traffic.callers[id]? = some before ∧ caller.key = before.key ∧
      caller.began = before.began ∧ caller.leader? = before.leader? ∧
      Went traffic event id before caller.stage) ∨
    id = traffic.callers.length ∧ ∃ key now cache begin, event = .begin key now ∧
      Coalescing.Begun traffic.cache key now good cache begin ∧
        caller = traffic.newcomer key begin := by
  cases moved with
  | idle | cleared | poisoned => exact .inl ⟨caller, found, rfl, rfl, rfl, .stayed⟩
  | entered begins begun =>
      rw [callers_enter] at found
      split at found
      · cases found
        exact .inr ⟨‹_›, _, _, _, _, begins, begun, rfl⟩
      · simp only [Caller.hearAll_nil, Option.map_id'] at found
        exact .inl ⟨caller, found, rfl, rfl, rfl, .stayed⟩
  | @turned mover before stage known turn =>
      rw [callers_move] at found
      obtain ⟨other, known', rfl⟩ := Option.map_eq_some_iff.mp found
      refine .inl ⟨other, known', ?_⟩
      split
      · rename_i same
        cases same
        cases known.symm.trans known'
        exact ⟨rfl, rfl, rfl, .turned turn⟩
      · exact ⟨rfl, rfl, rfl, .stayed⟩
  | @ended mover leader generation load result? stored ends known leading stores =>
      rw [callers_move] at found
      obtain ⟨other, known', rfl⟩ := Option.map_eq_some_iff.mp found
      refine .inl ⟨other, known', ?_⟩
      split
      · rename_i same
        cases same
        cases known.symm.trans known'
        exact ⟨by simp, by simp, by simp, .ended leading result? ends⟩
      · refine ⟨by simp, by simp, by simp, ?_⟩
        change Went traffic event id other (other.hearAll (((stored.waiters? leader.key).getD []).map
          fun ticket => ⟨ticket, result?.map load.mark⟩)).stage
        rw [stores.waiters?_eq]
        rcases ticketed.hearAll_cases leader.key (result?.map load.mark)
          (List.mem_of_getElem? known') with ⟨-, -, -, equal, -, heard⟩ | ⟨-, deaf⟩
        · have leads : leader.leads other.key :=
            (Caller.leads_of_leading leading other.key).trans equal
          rw [heard]
          rcases other.stage_tell (result?.map load.mark) with same | ⟨waits, told⟩
          · exact same ▸ .stayed
          · exact told ▸ .woken waits known leads leading result? ends
        · rw [deaf]
          exact .stayed

theorem Moved.moment_eq (moved : traffic.Moved good event after) :
    after.moment = traffic.moment + 1 := by
  cases moved <;> rfl

theorem Moved.leads_kept [EquivBEq K] (moved : traffic.Moved good event after) {id : Nat} {key : K}
    (leads : traffic.Leads id key) :
    after.Leads id key ∨ after.cache.waiters? key = none := by
  cases moved with
  | idle | cleared | poisoned => exact .inl leads
  | entered => exact .inl (leads_enter.mpr (.inl leads))
  | turned found turn =>
      refine .inl ((leads_move turn.aside.2).mpr ⟨?_, leads⟩)
      rintro rfl
      obtain ⟨caller, found', leading⟩ := leads
      cases found.symm.trans found'
      cases (Caller.not_leads turn.aside.1 key).symm.trans leading
  | @ended mover leader generation load result? stored ends found leading stores =>
      by_cases same : mover = id
      · subst same
        obtain ⟨caller, found', leads⟩ := leads
        cases found.symm.trans found'
        have equal : leader.key == key := (Caller.leads_of_leading leading key).symm.trans leads
        refine .inr ?_
        change (stored.takeWaiters leader.key).1.waiters? key = none
        rw [Coalescing.waiters?_takeWaiters, if_pos equal]
      · exact .inl ((leads_move (by cases result? <;> rfl)).mpr ⟨same, leads⟩)

theorem leader?_of_leads {key : K} (led : ∃ id, traffic.Leads id key) :
    ∃ id, traffic.leader? key = some id ∧ traffic.Leads id key := by
  obtain ⟨id, caller, found, leads⟩ := led
  cases searched : traffic.leader? key with
  | none =>
      have nobody := List.findIdx?_eq_none_iff.mp searched caller (List.mem_of_getElem? found)
      rw [leads] at nobody
      cases nobody
  | some first =>
      obtain ⟨bounded, leads', -⟩ := List.findIdx?_eq_some_iff_getElem.mp searched
      exact ⟨first, rfl, _, List.getElem?_eq_getElem bounded, leads'⟩

omit [Hashable K] in
theorem loading_of_leads {caller : Caller K V E} {key : K} (leads : caller.leads key) :
    ∃ lead own generation load, caller.stage = .loading (.leading lead own generation) load := by
  cases stands : caller.stage with
  | loading call load =>
      cases call with
      | leading lead own generation => exact ⟨lead, own, generation, load, rfl⟩
      | _ => simp [Caller.leads, stands, Stage.lead?] at leads
  | _ => simp [Caller.leads, stands, Stage.lead?] at leads

theorem Orderly.key_of_leads (orderly : traffic.Orderly) {id : Nat} {leader : Caller K V E}
    {key : K} (found : traffic.callers[id]? = some leader) (leads : leader.leads key) :
    leader.key == key := by
  obtain ⟨lead, own, generation, load, leading⟩ := loading_of_leads leads
  obtain ⟨rfl, rfl, -⟩ := orderly.steady.own_lead found leading
  exact (Caller.leads_of_leading leading key).symm.trans leads

/-- Callers run loaders of their own from when they began or later, wait for callers that lead their
keys, and are told what those have loaded. -/
structure Traced (traffic : Traffic K V E) : Prop where
  began_lt : ∀ {caller}, caller ∈ traffic.callers → caller.began < traffic.moment
  loading : ∀ {id : Nat} {caller : Caller K V E} {call load}, traffic.callers[id]? = some caller →
    caller.stage = .loading call load → load.caller = id ∧ caller.began ≤ load.started
  waiting : ∀ {caller}, caller ∈ traffic.callers → caller.stage = .waiting →
    ∃ id, caller.leader? = some id ∧ traffic.Leads id caller.key
  told : ∀ {caller answer}, caller ∈ traffic.callers → caller.stage = .told (some answer) →
    caller.leader? = some answer.load.caller

theorem Traced.start (name : String) (capacity : Nat) (ttl : Span) :
    (start name capacity ttl : Traffic K V E).Traced := by
  constructor <;> simp [Traffic.start]

theorem Moved.traced [EquivBEq K] (moved : traffic.Moved good event after) (led : traffic.Led)
    (ticketed : traffic.Ticketed) (traced : traffic.Traced) : after.Traced where
  began_lt member := by
    obtain ⟨id, found⟩ := List.mem_iff_getElem?.mp member
    rw [moved.moment_eq]
    rcases moved.caller_cases ticketed found with
      ⟨before, known, -, began, -, -⟩ | ⟨-, key, now, cache, begin, -, begun, rfl⟩
    · rw [began]
      exact Nat.lt_succ_of_lt (traced.began_lt (List.mem_of_getElem? known))
    · cases begun <;> exact Nat.lt_succ_self _
  loading {id caller call load} found loading := by
    rcases moved.caller_cases ticketed found with
      ⟨before, known, -, began, -, went⟩ | ⟨rfl, key, now, cache, begin, -, begun, rfl⟩
    · rw [began]
      generalize caller.stage = stage at went loading
      cases went with
      | stayed => exact traced.loading known loading
      | turned turn =>
          obtain ⟨rfl, rfl⟩ := turn.direct loading
          exact ⟨rfl, Nat.le_of_lt (traced.began_lt (List.mem_of_getElem? known))⟩
      | ended _ result? => cases result? <;> cases loading
      | woken => cases loading
    · cases begun <;> cases loading <;> exact ⟨rfl, Nat.le_refl _⟩
  waiting {caller} member waits := by
    obtain ⟨id, found⟩ := List.mem_iff_getElem?.mp member
    obtain ⟨ticket, tickets, -, flight, -⟩ := (moved.ticketed ticketed).registered member waits
    -- A flight that is still there after the step has not lost its leader.
    have kept {leader : Nat} (leads : traffic.Leads leader caller.key) :
        after.Leads leader caller.key := by
      rcases moved.leads_kept leads with leads | gone
      · exact leads
      · cases gone.symm.trans flight
    rcases moved.caller_cases ticketed found with
      ⟨before, known, sameKey, -, sameLeader, went⟩ | ⟨rfl, key, now, cache, begin, -, begun, rfl⟩
    · have waited : before.stage = .waiting := by
        generalize caller.stage = stage at went waits
        cases went with
        | stayed => exact waits
        | turned turn => exact absurd waits turn.awake.1
        | ended _ result? => cases result? <;> cases waits
        | woken => cases waits
      obtain ⟨leader, knows, leads⟩ := traced.waiting (List.mem_of_getElem? known) waited
      exact ⟨leader, sameLeader.trans knows, kept (sameKey ▸ leads)⟩
    · cases begun with
      | joined working sound flying =>
          obtain ⟨leader, knows, leads⟩ := leader?_of_leads ((led.flying_iff key).mp flying)
          exact ⟨leader, knows, kept leads⟩
      | _ => cases waits
  told {caller answer} member told := by
    obtain ⟨id, found⟩ := List.mem_iff_getElem?.mp member
    rcases moved.caller_cases ticketed found with
      ⟨before, known, -, -, sameLeader, went⟩ | ⟨-, key, now, cache, begin, -, begun, rfl⟩
    · rw [sameLeader]
      have old := List.mem_of_getElem? known
      generalize caller.stage = stage at went told
      cases went with
      | stayed => exact traced.told old told
      | turned turn => exact absurd told (turn.awake.2 _)
      | ended _ result? => cases result? <;> cases told
      | woken waits knownLeader leads loading result? =>
          obtain ⟨leader, knows, leads'⟩ := traced.waiting old waits
          obtain ⟨rfl, -⟩ := traced.loading knownLeader loading
          cases led.alone leads' ⟨_, knownLeader, leads⟩
          cases result? with
          | none => cases told
          | some result =>
              cases told
              rw [Answer.load_mark]
              exact knows
    · cases begun <;> cases told

section Runs

variable [EquivBEq K] [LawfulHashable K]

theorem Orderly.moment_run (orderly : traffic.Orderly) (events : List (Event K V E)) :
    (traffic.run events).moment = traffic.moment + events.length := by
  induction events generalizing traffic with
  | nil => rfl
  | cons event rest ih =>
      change ((traffic.step event).run rest).moment = _
      rw [ih (orderly.step event), (orderly.steady.moved event).moment_eq, List.length_cons]
      omega

theorem Traced.run (traced : traffic.Traced) (orderly : traffic.Orderly)
    (events : List (Event K V E)) : (traffic.run events).Traced := by
  induction events generalizing traffic with
  | nil => exact traced
  | cons event rest ih =>
      have moved := orderly.steady.moved event
      exact ih (moved.traced orderly.led orderly.ticketed traced) (orderly.step event)

/-- The leader that a caller has noted down did lead its key when the caller began. -/
theorem leads_at_begin (name : String) (capacity : Nat) (ttl : Span)
    (events : List (Event K V E)) {caller : Caller K V E} {leader : Nat}
    (member : caller ∈ ((start name capacity ttl).run events).callers)
    (knows : caller.leader? = some leader) :
    ((start name capacity ttl : Traffic K V E).run (events.take caller.began)).Leads leader
      caller.key := by
  have origin : (start name capacity ttl : Traffic K V E).Orderly := .start name capacity ttl
  induction events using List.reverseRecOn generalizing caller with
  | nil => cases member
  | append_singleton events event ih =>
      have orderly := origin.run events
      have traced := (Traced.start name capacity ttl).run origin events
      have moment : ((start name capacity ttl).run events).moment = 0 + events.length :=
        origin.moment_run events
      rw [run_append] at member
      obtain ⟨id, found⟩ := List.mem_iff_getElem?.mp member
      rcases (orderly.steady.moved event).caller_cases orderly.ticketed found with
        ⟨before, known, sameKey, began, sameLeader, -⟩ | ⟨-, key, now, cache, begin, -, begun, rfl⟩
      · have old := List.mem_of_getElem? known
        have bounded := traced.began_lt old
        rw [began, sameKey, List.take_append_of_le_length (by omega)]
        exact ih old (sameLeader ▸ knows)
      · cases begun with
        | joined working sound flying =>
            obtain ⟨first, knows', leads⟩ := leader?_of_leads ((orderly.led.flying_iff key).mp flying)
            cases knows'.symm.trans knows
            change ((start name capacity ttl).run (List.take
              ((start name capacity ttl).run events).moment (events ++ [event]))).Leads leader key
            rw [moment, Nat.zero_add, List.take_left]
            exact leads
        | _ => cases knows

end Runs

end Roster.Cache.Traffic
