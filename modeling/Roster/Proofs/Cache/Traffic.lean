import Roster.Cache.Traffic
import Roster.Proofs.Cache.Steps

namespace Roster.Cache

/-! What one step does to callers that share a cache. -/

variable {K V E : Type}

namespace Answer

@[simp]
theorem load_mark (load : Load) (result : Except E V) : Answer.load (load.mark result) = load := by
  cases result <;> rfl

end Answer

/-! What notices do to a caller. -/

namespace Caller

/-- What hearing one result leaves as it is, any number of notices leaves as it is. -/
theorem hearAll_field {α : Type} (field : Caller K V E → α)
    (kept : ∀ caller result, field (caller.tell result) = field caller) (caller : Caller K V E)
    (notices : List (Notice (Loaded V) (Loaded E))) :
    field (caller.hearAll notices) = field caller := by
  induction notices generalizing caller with
  | nil => rfl
  | cons notice rest ih =>
      change field ((caller.hear notice).hearAll rest) = _
      rw [ih, hear]
      split
      · exact kept caller notice.result
      · rfl

@[simp]
theorem hearAll_nil (caller : Caller K V E) : caller.hearAll [] = caller := rfl

@[simp]
theorem key_hearAll (caller : Caller K V E) (notices) : (caller.hearAll notices).key = caller.key :=
  hearAll_field key (fun _ _ => rfl) caller notices

@[simp]
theorem began_hearAll (caller : Caller K V E) (notices) :
    (caller.hearAll notices).began = caller.began :=
  hearAll_field began (fun _ _ => rfl) caller notices

@[simp]
theorem leader?_hearAll (caller : Caller K V E) (notices) :
    (caller.hearAll notices).leader? = caller.leader? :=
  hearAll_field leader? (fun _ _ => rfl) caller notices

@[simp]
theorem ticket?_hearAll (caller : Caller K V E) (notices) :
    (caller.hearAll notices).ticket? = caller.ticket? :=
  hearAll_field ticket? (fun _ _ => rfl) caller notices

theorem stage_tell (caller : Caller K V E) (result : Option (Answer V E)) :
    (caller.tell result).stage = caller.stage ∨
      caller.stage = .waiting ∧ (caller.tell result).stage = .told result := by
  rw [tell]
  cases caller.stage with
  | waiting => exact .inr ⟨rfl, rfl⟩
  | _ => exact .inl rfl

theorem stage_hearAll {caller : Caller K V E} (awake : caller.stage ≠ .waiting) (notices) :
    (caller.hearAll notices).stage = caller.stage := by
  induction notices generalizing caller with
  | nil => rfl
  | cons notice rest ih =>
      have stays : (caller.hear notice).stage = caller.stage := by
        rw [hear]
        split
        · rcases stage_tell caller notice.result with same | ⟨waits, -⟩
          · exact same
          · exact absurd waits awake
        · rfl
      change ((caller.hear notice).hearAll rest).stage = _
      rw [ih (stays ▸ awake), stays]

/-- A notice can only wake up a caller that waits and holds its ticket. -/
theorem stage_hearAll_cases (caller : Caller K V E) (notices) :
    (caller.hearAll notices).stage = caller.stage ∨
      caller.stage = .waiting ∧ ∃ notice ∈ notices, caller.ticket? = some notice.ticket ∧
        (caller.hearAll notices).stage = .told notice.result := by
  induction notices generalizing caller with
  | nil => exact .inl rfl
  | cons notice rest ih =>
      have later : (caller.hearAll (notice :: rest)).stage =
          ((caller.hear notice).hearAll rest).stage := rfl
      rw [later]
      by_cases mine : caller.ticket? = some notice.ticket
      · rw [hear, if_pos mine]
        rcases stage_tell caller notice.result with same | ⟨waits, told⟩
        · rcases ih (caller.tell notice.result) with stays | ⟨waits, sent, member, holds, told⟩
          · exact .inl (stays.trans same)
          · exact .inr ⟨same ▸ waits, sent, List.mem_cons_of_mem notice member, holds, told⟩
        · refine .inr ⟨waits, notice, List.mem_cons_self, mine, ?_⟩
          rw [stage_hearAll (by simp [told]), told]
      · rw [hear, if_neg mine]
        rcases ih caller with same | ⟨waits, sent, member, holds, told⟩
        · exact .inl same
        · exact .inr ⟨waits, sent, List.mem_cons_of_mem notice member, holds, told⟩

/-- Only a caller without a lead can wait, so no notice touches a lead. -/
@[simp]
theorem leads_hearAll [BEq K] (caller : Caller K V E) (notices) :
    (caller.hearAll notices).leads = caller.leads := by
  refine hearAll_field leads (fun caller result => ?_) caller notices
  funext key
  rw [leads, leads, tell]
  cases caller.stage <;> rfl

theorem not_leads [BEq K] {caller : Caller K V E} (aside : caller.stage.lead? = none) (key : K) :
    caller.leads key = false := by
  simp [leads, aside]

theorem leads_of_leading [BEq K] {caller : Caller K V E} {led key : K} {generation : Nat}
    {load : Load} (leading : caller.stage = .loading (.leading ⟨some led⟩ key generation) load)
    (other : K) : caller.leads other = (led == other) := by
  simp [leads, leading, Stage.lead?]

theorem leads_eq [BEq K] [EquivBEq K] {caller : Caller K V E} {key : K} (leads : caller.leads key)
    (other : K) : caller.leads other = (key == other) := by
  simp only [Caller.leads, Option.any_eq_true] at leads ⊢
  obtain ⟨led, guards, equal⟩ := leads
  rw [guards, Option.any_some]
  exact BEq.congr_left equal

theorem hearAll_of_deaf {caller : Caller K V E}
    {notices : List (Notice (Loaded V) (Loaded E))}
    (deaf : ∀ notice ∈ notices, caller.ticket? ≠ some notice.ticket) :
    caller.hearAll notices = caller := by
  induction notices with
  | nil => rfl
  | cons notice rest ih =>
      obtain ⟨other, others⟩ := List.forall_mem_cons.mp deaf
      change (caller.hear notice).hearAll rest = caller
      rw [hear, if_neg other, ih others]

section Broadcast

variable {caller : Caller K V E} {tickets : List Ticket} {result : Option (Answer V E)}

/-- A result that is sent to everyone who waits is heard once by each of them. -/
theorem hearAll_of_mem (distinct : tickets.Nodup) {ticket : Ticket}
    (holds : caller.ticket? = some ticket) (member : ticket ∈ tickets) :
    caller.hearAll (tickets.map fun ticket => ⟨ticket, result⟩) = caller.tell result := by
  induction tickets with
  | nil => cases member
  | cons first rest ih =>
      obtain ⟨new, restDistinct⟩ := List.nodup_cons.mp distinct
      change (caller.hear ⟨first, result⟩).hearAll _ = _
      by_cases mine : caller.ticket? = some first
      · rw [hear, if_pos mine]
        refine hearAll_of_deaf fun notice sent heard => ?_
        obtain ⟨other, otherMember, rfl⟩ := List.mem_map.mp sent
        have same : other = first := Option.some.inj (heard.symm.trans mine)
        exact new (same ▸ otherMember)
      · rw [hear, if_neg mine]
        rcases List.mem_cons.mp member with rfl | later
        · exact absurd holds mine
        · exact ih restDistinct later

end Broadcast

end Caller

namespace Traffic

variable [BEq K] [Hashable K] {traffic : Traffic K V E}

/-- The first caller finds nothing and leads. -/
theorem step_begin_new (name : String) (capacity : Nat) (ttl : Span) (key : K) (now : Instant) :
    (start name capacity ttl : Traffic K V E).step (.begin key now) =
      { cache :=
          { Coalescing.new name capacity ttl with
            flights := [(key, [])], counters := Counters.miss {} }
        callers := [{ key, began := 0, stage := .loading (.leading ⟨some key⟩ key 0) ⟨0, 0⟩ }]
        moment := 1 } := by
  have begins : (Coalescing.new name capacity ttl).begin (V := Loaded V) (E := Loaded E) key now = _ :=
    Coalescing.begin_of_missing rfl (Lru.get_of_empty rfl key now) rfl
  rw [start, step, begins]
  rfl

theorem run_append (events later : List (Event K V E)) :
    traffic.run (events ++ later) = (traffic.run events).run later :=
  List.foldl_append

theorem callers_move (id other : Nat) (stage : Stage K V E) (cache) (notices) :
    (traffic.move id stage cache notices).callers[other]? =
      traffic.callers[other]?.map fun caller =>
        if id = other then { caller.hearAll notices with stage } else caller.hearAll notices := by
  rw [move, List.getElem?_modify, List.getElem?_map, Option.map_eq_map, Option.map_map]
  split <;> rfl

theorem callers_enter (newcomer : Caller K V E) (cache) (notices) (id : Nat) :
    (traffic.enter newcomer cache notices).callers[id]? =
      if id = traffic.callers.length then some newcomer
      else traffic.callers[id]?.map (·.hearAll notices) := by
  rw [enter, List.getElem?_append, List.length_map]
  by_cases known : id < traffic.callers.length
  · rw [if_pos known, if_neg (Nat.ne_of_lt known), List.getElem?_map]
  · rw [if_neg known]
    by_cases last : id = traffic.callers.length
    · rw [if_pos last, last, Nat.sub_self]
      rfl
    · have none_here : traffic.callers[id]? = none :=
        List.getElem?_eq_none (Nat.le_of_not_lt known)
      rw [if_neg last, none_here]
      exact List.getElem?_eq_none (by
        have : traffic.callers.length < id := by omega
        simp only [List.length_singleton]
        omega)

theorem mem_move {id : Nat} {stage : Stage K V E} {cache notices} {caller : Caller K V E}
    (member : caller ∈ (traffic.move id stage cache notices).callers) :
    ∃ place other, traffic.callers[place]? = some other ∧ caller =
      if id = place then { other.hearAll notices with stage } else other.hearAll notices := by
  obtain ⟨place, found⟩ := List.mem_iff_getElem?.mp member
  rw [callers_move] at found
  obtain ⟨other, known, rfl⟩ := Option.map_eq_some_iff.mp found
  exact ⟨place, other, known, rfl⟩

theorem mem_move_of {id place : Nat} {stage : Stage K V E} {cache notices} {caller : Caller K V E}
    (known : traffic.callers[place]? = some caller) :
    (if id = place then { caller.hearAll notices with stage } else caller.hearAll notices) ∈
      (traffic.move id stage cache notices).callers := by
  refine List.mem_of_getElem? (i := place) ?_
  rw [callers_move, known]
  rfl

theorem before_move {id place : Nat} {stage : Stage K V E} {cache notices} {caller : Caller K V E}
    (found : (traffic.move id stage cache notices).callers[place]? = some caller) :
    ∃ before, traffic.callers[place]? = some before ∧ caller.key = before.key ∧
      caller.ticket? = before.ticket? := by
  rw [callers_move] at found
  obtain ⟨before, known, rfl⟩ := Option.map_eq_some_iff.mp found
  refine ⟨before, known, ?_⟩
  split
  · exact ⟨Caller.key_hearAll before notices, Caller.ticket?_hearAll before notices⟩
  · exact ⟨Caller.key_hearAll before notices, Caller.ticket?_hearAll before notices⟩

theorem mem_enter {newcomer caller : Caller K V E} {cache} :
    caller ∈ (traffic.enter newcomer cache []).callers ↔
      caller ∈ traffic.callers ∨ caller = newcomer := by
  simp [enter]

def Leads (traffic : Traffic K V E) (id : Nat) (key : K) : Prop :=
  ∃ caller, traffic.callers[id]? = some caller ∧ caller.leads key

theorem leads_move {id other : Nat} {stage : Stage K V E} {cache notices} {key : K}
    (aside : stage.lead? = none) :
    (traffic.move id stage cache notices).Leads other key ↔
      id ≠ other ∧ traffic.Leads other key := by
  simp only [Leads, callers_move, Option.map_eq_some_iff]
  constructor
  · rintro ⟨-, ⟨caller, found, rfl⟩, leading⟩
    split at leading
    · rw [Caller.not_leads aside] at leading
      cases leading
    · exact ⟨‹_›, caller, found, by simpa using leading⟩
  · rintro ⟨apart, caller, found, leading⟩
    exact ⟨_, ⟨caller, found, rfl⟩, by simpa [apart] using leading⟩

theorem leads_enter {newcomer : Caller K V E} {cache notices} {id : Nat} {key : K} :
    (traffic.enter newcomer cache notices).Leads id key ↔
      traffic.Leads id key ∨ id = traffic.callers.length ∧ newcomer.leads key := by
  simp only [Leads, callers_enter]
  by_cases last : id = traffic.callers.length
  · simp [last]
  · simp [last]

/-! What an event can do. Everything that is said below of whole runs comes from the cases of
`Moved`. -/

/-- The moves that leave the cache alone. -/
inductive Turn (traffic : Traffic K V E) (event : Event K V E) (id : Nat) :
    Stage K V E → Stage K V E → Prop
  | loaded (load : Load) {result : Except E V} (ends : event.Ends id (some result)) :
      Turn traffic event id (.loading .direct load) (.returned (load.mark result))
  | answered (answer : Answer V E) :
      Turn traffic event id (.told (some answer)) (.returned answer)
  | alone : Turn traffic event id (.told none) (.loading .direct (traffic.load id))
  | loadStopped (load : Load) : Turn traffic event id (.loading .direct load) .stopped
  | waitStopped : Turn traffic event id .waiting .stopped
  | toldStopped (notice : Option (Answer V E)) : Turn traffic event id (.told notice) .stopped

theorem Turn.direct {event : Event K V E} {id : Nat} {before stage : Stage K V E}
    (turn : Turn traffic event id before stage) {call : Coalescing.Call K} {load : Load}
    (loading : stage = .loading call load) :
    call = .direct ∧ load = traffic.load id := by
  cases turn <;> cases loading
  exact ⟨rfl, rfl⟩

inductive Moved (traffic : Traffic K V E) (good : Entry K (Loaded V) → Prop)
    (event : Event K V E) : Traffic K V E → Prop
  | idle : Moved traffic good event (traffic.tick traffic.cache)
  | cleared (clears : event = .clear) : Moved traffic good event (traffic.tick traffic.cache.clear)
  | poisoned (poisons : event = .poison) :
      Moved traffic good event (traffic.tick traffic.cache.poison)
  | entered {key : K} {now : Instant} {cache begin} (begins : event = .begin key now)
      (begun : Coalescing.Begun traffic.cache key now good cache begin) :
      Moved traffic good event (traffic.enter (traffic.newcomer key begin) cache [])
  | turned {id : Nat} {caller : Caller K V E} {stage : Stage K V E}
      (found : traffic.callers[id]? = some caller)
      (turn : Turn traffic event id caller.stage stage) :
      Moved traffic good event (traffic.move id stage traffic.cache [])
  | ended {id : Nat} {caller : Caller K V E} {generation : Nat} {load : Load}
      {result? : Option (Except E V)} {stored : Coalescing K (Loaded V)}
      (ends : event.Ends id result?) (found : traffic.callers[id]? = some caller)
      (leading : caller.stage = .loading (.leading ⟨some caller.key⟩ caller.key generation) load)
      (stores : Coalescing.Stored traffic.cache generation good stored) :
      Moved traffic good event
        (traffic.move id (load.outcome result?) (stored.takeWaiters caller.key).1
          ((stored.takeWaiters caller.key).2.map fun ticket => ⟨ticket, result?.map load.mark⟩))

end Traffic

/-- A caller that leads does so under its own key, and what it stores is good. -/
def Caller.Steady [BEq K] (caller : Caller K V E) (generation : Nat)
    (good : Entry K (Loaded V) → Prop) : Prop :=
  match caller.stage with
  | .loading (.leading lead key began) load =>
      lead = ⟨some caller.key⟩ ∧ key = caller.key ∧ began ≤ generation ∧
        (generation = began → ∀ stored content now, stored == caller.key →
          good ⟨stored, ⟨content, load⟩, now⟩)
  | .loading (.waiting _) _ => False
  | _ => True

namespace Caller.Steady

variable [BEq K] {caller : Caller K V E} {generation : Nat} {good : Entry K (Loaded V) → Prop}

theorem of_not_leading {caller : Caller K V E} (generation : Nat)
    (good : Entry K (Loaded V) → Prop) (idle : ∀ call load, caller.stage = .loading call load →
      call = .direct) : caller.Steady generation good := by
  rw [Caller.Steady]
  split
  · cases idle _ _ ‹_›
  · cases idle _ _ ‹_›
  · trivial

theorem hearAll (steady : caller.Steady generation good) (notices) :
    (caller.hearAll notices).Steady generation good := by
  rcases stage_hearAll_cases caller notices with same | ⟨_, _, _, _, told⟩
  · rw [Caller.Steady, same, key_hearAll]
    exact steady
  · exact of_not_leading generation good fun call load loading => by simp [told] at loading

/-- Once the generation has changed, whoever began before does not store anything. -/
theorem later (steady : caller.Steady generation good) {next : Nat} (grows : generation ≤ next) :
    caller.Steady next good := by
  rw [Caller.Steady] at steady ⊢
  split at steady
  · obtain ⟨guard, own, began, safe⟩ := steady
    refine ⟨guard, own, by omega, fun current => safe ?_⟩
    omega
  · exact steady.elim
  · trivial

theorem outdated (steady : caller.Steady generation good) {next : Nat} (grows : generation < next)
    (better : Entry K (Loaded V) → Prop) : caller.Steady next better := by
  rw [Caller.Steady] at steady ⊢
  split at steady
  · obtain ⟨guard, own, began, -⟩ := steady
    exact ⟨guard, own, by omega, fun current => by omega⟩
  · exact steady.elim
  · trivial

end Caller.Steady

namespace Traffic

structure Steady [BEq K] [Hashable K] (traffic : Traffic K V E)
    (good : Entry K (Loaded V) → Prop) : Prop where
  entries_sound : traffic.cache.entries.Sound good
  callers_steady : ∀ caller ∈ traffic.callers, caller.Steady traffic.cache.generation good

variable [BEq K] [Hashable K] [EquivBEq K] [LawfulHashable K] {traffic : Traffic K V E}
  {good : Entry K (Loaded V) → Prop}

/-- What a leader stores with an event is good. -/
def Safe (traffic : Traffic K V E) (event : Event K V E) (good : Entry K (Loaded V) → Prop) :
    Prop :=
  ∀ {id : Nat} {caller : Caller K V E} {generation : Nat} {load : Load} {value : V} {now : Instant},
    event = .finish id (.ok value) now → traffic.callers[id]? = some caller →
    caller.stage = .loading (.leading ⟨some caller.key⟩ caller.key generation) load →
    traffic.cache.poisoned = false → traffic.cache.generation = generation →
    ∀ stored, stored == caller.key → good ⟨stored, ⟨value, load⟩, now⟩

omit [EquivBEq K] [LawfulHashable K] in
theorem Steady.own_lead (steady : traffic.Steady good) {id : Nat} {caller : Caller K V E}
    {lead : Coalescing.Lead K} {key : K} {generation : Nat} {load : Load}
    (found : traffic.callers[id]? = some caller)
    (leading : caller.stage = .loading (.leading lead key generation) load) :
    lead = ⟨some caller.key⟩ ∧ key = caller.key ∧
      (traffic.cache.generation = generation → ∀ stored content now, stored == caller.key →
        good ⟨stored, ⟨content, load⟩, now⟩) := by
  have sound := steady.callers_steady caller (List.mem_of_getElem? found)
  simp only [Caller.Steady, leading] at sound
  obtain ⟨guard, own, -, safe⟩ := sound
  exact ⟨guard, own, safe⟩

omit [EquivBEq K] [LawfulHashable K] in
theorem Steady.not_waiting (steady : traffic.Steady good) {id : Nat} {caller : Caller K V E}
    {ticket : Ticket} {load : Load} (found : traffic.callers[id]? = some caller) :
    caller.stage ≠ .loading (.waiting ticket) load := by
  intro loading
  have sound := steady.callers_steady caller (List.mem_of_getElem? found)
  rw [Caller.Steady, loading] at sound
  exact sound

omit [EquivBEq K] [LawfulHashable K] in
theorem Steady.safe (steady : traffic.Steady good) (event : Event K V E) :
    traffic.Safe event good := by
  intro id caller generation load value now _ found leading _ current stored equal
  obtain ⟨-, -, safe⟩ := steady.own_lead found leading
  exact safe current stored value now equal

section Ends

variable {known : Entry K (Loaded V) → Prop} {event : Event K V E}

/-- A leader ends its flight after it has stored its value, if it has one. -/
theorem Steady.step_ends_of (steady : traffic.Steady known)
    (sound : traffic.cache.entries.Sound good) (safe : traffic.Safe event good) {id : Nat}
    {caller : Caller K V E} {lead : Coalescing.Lead K} {key : K} {generation : Nat} {load : Load}
    (found : traffic.callers[id]? = some caller)
    (leading : caller.stage = .loading (.leading lead key generation) load)
    {result? : Option (Except E V)} (ends : event.Ends id result?) :
    ∃ stored, Coalescing.Stored traffic.cache generation good stored ∧
      traffic.step event =
        traffic.move id (load.outcome result?) (stored.takeWaiters caller.key).1
          ((stored.takeWaiters caller.key).2.map fun ticket => ⟨ticket, result?.map load.mark⟩) := by
  obtain ⟨rfl, rfl, -⟩ := steady.own_lead found leading
  cases ends with
  | stop =>
      refine ⟨traffic.cache, .skipped, ?_⟩
      simp only [step, found, Option.map_some, leading, Coalescing.abandon_leading]
      rfl
  | finish _ result now =>
      cases result with
      | error error =>
          refine ⟨traffic.cache, .skipped, ?_⟩
          simp only [step, found, Option.map_some, leading, Coalescing.finish, Load.mark,
            Coalescing.complete_eq]
          rfl
      | ok value =>
          refine ⟨_, Coalescing.store_stored sound (safe rfl found leading), ?_⟩
          simp only [step, found, Option.map_some, leading, Coalescing.finish, Load.mark,
            Coalescing.complete_eq]
          rfl

theorem Steady.step_ends (steady : traffic.Steady good) {id : Nat} {caller : Caller K V E}
    {lead : Coalescing.Lead K} {key : K} {generation : Nat} {load : Load}
    (found : traffic.callers[id]? = some caller)
    (leading : caller.stage = .loading (.leading lead key generation) load)
    {result? : Option (Except E V)} (ends : event.Ends id result?) :
    ∃ stored, Coalescing.Stored traffic.cache generation good stored ∧
      traffic.step event =
        traffic.move id (load.outcome result?) (stored.takeWaiters caller.key).1
          ((stored.takeWaiters caller.key).2.map fun ticket => ⟨ticket, result?.map load.mark⟩) :=
  steady.step_ends_of steady.entries_sound (steady.safe event) found leading ends

theorem Steady.moved_of_loading (steady : traffic.Steady known)
    (sound : traffic.cache.entries.Sound good) (safe : traffic.Safe event good) {id : Nat}
    {caller : Caller K V E} {call : Coalescing.Call K} {load : Load}
    (found : traffic.callers[id]? = some caller) (loading : caller.stage = .loading call load)
    {result? : Option (Except E V)} (ends : event.Ends id result?) :
    traffic.Moved good event (traffic.step event) := by
  cases call with
  | waiting ticket => exact absurd loading (steady.not_waiting found)
  | direct =>
      cases ends with
      | finish _ result now =>
          simp only [step, found, Option.map_some, loading]
          exact .turned found (loading ▸ .loaded load (.finish id result now))
      | stop =>
          simp only [step, found, Option.map_some, loading]
          exact .turned found (loading ▸ .loadStopped load)
  | leading lead key generation =>
      obtain ⟨stored, stores, step_eq⟩ := steady.step_ends_of sound safe found loading ends
      obtain ⟨rfl, rfl, -⟩ := steady.own_lead found loading
      rw [step_eq]
      exact .ended ends found loading stores

end Ends

/-- Whatever is known of the entries stays known of those that were there before; of a new one
something has to be known when it is stored. -/
theorem Steady.moved_of {known : Entry K (Loaded V) → Prop} (steady : traffic.Steady known)
    (sound : traffic.cache.entries.Sound good) {event : Event K V E}
    (safe : traffic.Safe event good) : traffic.Moved good event (traffic.step event) := by
  cases event with
  | clear => exact .cleared rfl
  | poison => exact .poisoned rfl
  | begin key now =>
      obtain ⟨cache, begin, begins, begun⟩ :=
        Coalescing.begin_begun (E := Loaded E) sound key now
      rw [step, begins]
      exact .entered rfl begun
  | finish id result now =>
      cases found : traffic.callers[id]? with
      | none =>
          rw [step, found]
          exact .idle
      | some caller =>
          cases stands : caller.stage with
          | loading call load =>
              exact steady.moved_of_loading sound safe found stands (.finish id result now)
          | _ =>
              simp only [step, found, Option.map_some, stands]
              exact .idle
  | resume id =>
      cases found : traffic.callers[id]? with
      | none =>
          rw [step, found]
          exact .idle
      | some caller =>
          cases stands : caller.stage with
          | told notice =>
              simp only [step, found, Option.map_some, stands]
              cases notice with
              | some answer => exact .turned found (stands ▸ .answered answer)
              | none => exact .turned found (stands ▸ .alone)
          | _ =>
              simp only [step, found, Option.map_some, stands]
              exact .idle
  | stop id =>
      cases found : traffic.callers[id]? with
      | none =>
          rw [step, found]
          exact .idle
      | some caller =>
          cases stands : caller.stage with
          | loading call load => exact steady.moved_of_loading sound safe found stands (.stop id)
          | waiting =>
              simp only [step, found, Option.map_some, stands]
              exact .turned found (stands ▸ .waitStopped)
          | told notice =>
              simp only [step, found, Option.map_some, stands]
              exact .turned found (stands ▸ .toldStopped notice)
          | _ =>
              simp only [step, found, Option.map_some, stands]
              exact .idle

theorem Steady.moved (steady : traffic.Steady good) (event : Event K V E) :
    traffic.Moved good event (traffic.step event) :=
  steady.moved_of steady.entries_sound (steady.safe event)

omit [EquivBEq K] [LawfulHashable K] in
theorem Moved.entries_sound {event : Event K V E} {after : Traffic K V E}
    (moved : traffic.Moved good event after) (sound : traffic.cache.entries.Sound good) :
    after.cache.entries.Sound good := by
  cases moved with
  | idle | poisoned | turned => exact sound
  | cleared => exact sound.clear good
  | entered _ begun => exact begun.entries_sound sound
  | ended _ _ _ stores => exact stores.entries_sound sound

omit [EquivBEq K] [LawfulHashable K] in
/-- Steadiness is kept if what a newcomer would load in this step is good. -/
theorem Moved.steady {event : Event K V E} {after : Traffic K V E}
    (moved : traffic.Moved good event after) (steady : traffic.Steady good)
    (fresh : ∀ content stored now,
      good ⟨stored, ⟨content, traffic.load traffic.callers.length⟩, now⟩) :
    after.Steady good := by
  obtain ⟨sound, callers⟩ := steady
  refine ⟨moved.entries_sound sound, ?_⟩
  cases moved with
  | idle | poisoned => exact callers
  | cleared => exact fun caller member => (callers caller member).later (Nat.le_succ _)
  | entered _ begun =>
      intro caller member
      rcases mem_enter.mp member with known | rfl
      · exact (callers caller known).later begun.generation_le
      · cases begun with
        | opened =>
            exact ⟨rfl, rfl, Nat.le_refl _, fun _ stored content now _ => fresh content stored now⟩
        | _ => exact .of_not_leading _ _ fun call load loading => by cases loading <;> rfl
  | turned found turn =>
      intro caller member
      obtain ⟨place, other, known, rfl⟩ := mem_move member
      split
      · exact .of_not_leading _ _ fun call load loading => (turn.direct loading).1
      · exact (callers other (List.mem_of_getElem? known)).hearAll []
  | @ended id leader generation load result? stored ends found leading stores =>
      intro caller member
      obtain ⟨place, other, known, rfl⟩ := mem_move member
      split
      · refine .of_not_leading _ _ fun call load loading => ?_
        cases result? <;> cases loading
      · exact ((callers other (List.mem_of_getElem? known)).hearAll _).later stores.generation_le

omit [EquivBEq K] [LawfulHashable K] in
theorem Steady.start (name : String) (capacity : Nat) (ttl : Span)
    (good : Entry K (Loaded V) → Prop) :
    (start name capacity ttl : Traffic K V E).Steady good :=
  ⟨.new capacity ttl good, fun _ member => nomatch member⟩

end Traffic

end Roster.Cache
