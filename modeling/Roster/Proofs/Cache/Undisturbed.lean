import Roster.Proofs.Cache.Contention

namespace Roster.Cache.Contention

/-! A caller whom nobody disturbs between two waits. Its steps add up to what a call, or the end of its
loader, does to a cache in one. -/

variable {K V E : Type} [BEq K] [Hashable K] {contention after : Contention K V E} {id : Nat}
  {now : Instant} {caller : Caller K V E}

/-- One caller acts, and nobody else. -/
inductive Alone (id : Nat) (now : Instant) : Contention K V E → Contention K V E → Prop
  | rest (contention : Contention K V E) : Alone id now contention contention
  | act {contention after : Contention K V E}
      (onward : Alone id now (contention.step (.act id now)) after) : Alone id now contention after

def Caller.hearAll (caller : Caller K V E) (notices : List (Notice (Loaded V) (Loaded E))) :
    Caller K V E :=
  notices.foldl hear caller

/-- By itself a caller brings the cache, and those whom it notifies, this far. -/
def Gets (contention : Contention K V E) (id : Nat) (now : Instant)
    (cache : Coalescing K (Loaded V)) (notices : List (Notice (Loaded V) (Loaded E)))
    (next : Caller K V E) : Prop :=
  ∃ after, Alone id now contention after ∧ after.cache = cache ∧ after.callers[id]? = some next ∧
    ∀ other, other ≠ id →
      after.callers[other]? = contention.callers[other]?.map (·.hearAll notices)

theorem gets_here (now : Instant) (found : contention.callers[id]? = some caller) :
    contention.Gets id now contention.cache [] caller := by
  refine ⟨contention, .rest contention, rfl, found, ?_⟩
  intro other _
  simp [Caller.hearAll]

theorem others_move {other : Nat} (apart : other ≠ id) (stage : Stage V E)
    (cache : Coalescing K (Loaded V)) :
    (contention.move id stage cache).callers[other]? = contention.callers[other]? := by
  rw [callers_move]
  simp [Ne.symm apart]

theorem caller_move (found : contention.callers[id]? = some caller) (stage : Stage V E)
    (cache : Coalescing K (Loaded V)) :
    (contention.move id stage cache).callers[id]? = some { caller with stage } := by
  rw [callers_move, found]
  simp

section Steps

variable {reached : Coalescing K (Loaded V)} {notices : List (Notice (Loaded V) (Loaded E))}
  {next : Caller K V E}

/-- What follows a move of the caller is what it gets to. -/
theorem Gets.move {stage : Stage V E} {cache : Coalescing K (Loaded V)}
    (found : contention.callers[id]? = some caller)
    (acts : contention.act id caller now = contention.move id stage cache)
    (gets : (contention.move id stage cache).Gets id now reached notices next) :
    contention.Gets id now reached notices next := by
  obtain ⟨after, alone, cache, own, others⟩ := gets
  refine ⟨after, .act ?_, cache, own, ?_⟩
  · rw [step_act found, acts]
    exact alone
  · intro other apart
    rw [others other apart, others_move apart]

theorem Gets.tell {result : Option (Answer V E)} {ticket : Ticket} {rest : List Ticket}
    (found : contention.callers[id]? = some caller)
    (tells : caller.stage = .telling result (ticket :: rest))
    (gets : (contention.tell id ⟨ticket, result⟩ rest).Gets id now reached notices next) :
    contention.Gets id now reached (⟨ticket, result⟩ :: notices) next := by
  obtain ⟨after, alone, cache, own, others⟩ := gets
  refine ⟨after, .act ?_, cache, own, ?_⟩
  · rw [step_act found, act, tells]
    exact alone
  · intro other apart
    rw [others other apart, callers_tell, Option.map_map]
    congr 1
    funext heard
    simp [Ne.symm apart, Caller.hearAll]

/-- Where a caller ends that has ended its flight. -/
def Stage.ended : Option (Answer V E) → Stage V E
  | some answer => .returned answer
  | none => .stopped

theorem gets_telling (now : Instant) {result : Option (Answer V E)} {tickets : List Ticket}
    (found : contention.callers[id]? = some caller)
    (tells : caller.stage = .telling result tickets) :
    contention.Gets id now contention.cache (tickets.map fun ticket => ⟨ticket, result⟩)
      { caller with stage := .ended result } := by
  induction tickets generalizing contention caller with
  | nil =>
      have acts : contention.act id caller now =
          contention.move id (.ended result) contention.cache := by
        rw [act, tells]
        cases result <;> rfl
      exact .move found acts (gets_here now (caller_move found ..))
  | cons ticket rest ih =>
      have deaf : caller.hear ⟨ticket, result⟩ = caller := by
        rcases caller.hear_cases ⟨ticket, result⟩ with same | ⟨waits, -, -⟩
        · exact same
        · cases tells.symm.trans waits
      have found' : (contention.tell id ⟨ticket, result⟩ rest).callers[id]? =
          some { caller with stage := .telling result rest } := by
        rw [callers_tell, found]
        simp [deaf]
      have told := ih found' rfl
      exact .tell found tells told

theorem gets_completing (now : Instant) {result : Option (Answer V E)}
    {closed : Coalescing K (Loaded V)} {tickets : List Ticket}
    (found : contention.callers[id]? = some caller)
    (completes : caller.stage = .completing result)
    (takes : contention.cache.takeWaiters caller.key = (closed, tickets)) :
    contention.Gets id now closed (tickets.map fun ticket => ⟨ticket, result⟩)
      { caller with stage := .ended result } := by
  have acts : contention.act id caller now =
      contention.move id (.telling result tickets) closed := by
    rw [act, completes]
    dsimp only
    rw [takes]
  have told := gets_telling now (caller_move found (.telling result tickets) closed) rfl
  exact .move found acts told

end Steps

/-- Where a caller stands that has begun its call in one step. -/
def Agrees (began : Coalescing.Begin K (Loaded V)) (caller : Caller K V E) : Prop :=
  match began with
  | .hit value => caller.stage = .returned (.ok value)
  | .pending (.waiting ticket) => caller.stage = .waiting ∧ caller.ticket? = some ticket
  | .pending (.leading _ _ generation) => ∃ load, caller.stage = .loading (some generation) load
  | .pending .direct => ∃ load, caller.stage = .loading none load

variable {cache : Coalescing K (Loaded V)} {began : Coalescing.Begin K (Loaded V)}
  {notices : List (Notice (Loaded V) (Loaded E))}

theorem gets_checking {generation : Nat} (found : contention.callers[id]? = some caller)
    (checks : caller.stage = .checking generation)
    (current : contention.cache.generation = generation)
    (lead : contention.cache.lead caller.key now = (cache, began, notices)) :
    ∃ next, Agrees began next ∧ contention.Gets id now cache notices next := by
  rw [Coalescing.lead] at lead
  cases looks : contention.cache.lookup caller.key now with
  | error failure =>
      rw [looks] at lead
      cases lead
      exact ⟨_, ⟨_, by rw [current]⟩,
        .move found (act_failedAgain checks looks) (gets_here now (caller_move found ..))⟩
  | ok looked =>
      obtain ⟨missed, value?⟩ := looked
      rw [looks] at lead
      cases value? with
      | none =>
          obtain ⟨rfl, rfl, rfl⟩ : missed = cache ∧ _ = began ∧ _ = notices := by
            simpa only [Prod.mk.injEq] using lead
          exact ⟨_, ⟨_, by rw [current]⟩,
            .move found (act_missedAgain checks looks) (gets_here now (caller_move found ..))⟩
      | some value =>
          dsimp only at lead
          rw [Coalescing.complete_eq] at lead
          cases lead
          have completed := gets_completing now
            (caller_move found (.completing (some (.ok value))) missed) rfl rfl
          exact ⟨{ caller with stage := .returned (.ok value) }, rfl,
            .move found (act_hitAgain checks looks) completed⟩

theorem gets_leading (found : contention.callers[id]? = some caller)
    (leads : caller.stage = .leading)
    (lead : contention.cache.lead caller.key now = (cache, began, notices)) :
    ∃ next, Agrees began next ∧ contention.Gets id now cache notices next := by
  have acts : contention.act id caller now =
      contention.move id (.checking contention.cache.generation) contention.cache := by
    rw [act, leads]
  obtain ⟨next, agrees, gets⟩ := gets_checking
    (caller_move found (.checking contention.cache.generation) contention.cache) rfl rfl lead
  exact ⟨next, agrees, .move found acts gets⟩

theorem gets_waiting {joined : Coalescing K (Loaded V)} {ticket : Ticket}
    (found : contention.callers[id]? = some caller) (joins : caller.stage = .joining)
    (join : contention.cache.join caller.key = (joined, some ticket)) (now : Instant) :
    ∃ next, Agrees (.pending (.waiting ticket) : Coalescing.Begin K (Loaded V)) next ∧
      contention.Gets id now joined [] next := by
  have acts : contention.step (.act id now) = contention.enlist id caller.key ticket joined :=
    (step_act found).trans (act_joined joins join)
  let next : Caller K V E :=
    { caller with
      leader? := contention.leader? caller.key
      ticket? := some ticket
      stage := .waiting }
  refine ⟨next, ⟨rfl, rfl⟩, contention.enlist id caller.key ticket joined, ?_, rfl, ?_, ?_⟩
  · exact acts ▸ .act (.rest _)
  · rw [callers_enlist, found, Option.map_some, if_pos rfl]
  · intro other apart
    rw [callers_enlist]
    simp [Ne.symm apart, Caller.hearAll]

/-- To begin a call is to act until it waits or returns. -/
theorem begin_alone (found : contention.callers[id]? = some caller) (looks : caller.stage = .looking)
    (begins : contention.cache.begin caller.key now = (cache, began, notices)) :
    ∃ next, Agrees began next ∧ contention.Gets id now cache notices next := by
  rw [Coalescing.begin] at begins
  cases looked : contention.cache.lookup caller.key now with
  | error failure =>
      rw [looked] at begins
      cases begins
      let failed : Coalescing K (Loaded V) :=
        { contention.cache with counters := contention.cache.counters.error }
      have fails : contention.act id caller now = contention.move id (.emptying .load) failed :=
        act_failed looks looked
      have empties := caller_move (caller_move found (.emptying .load) failed) (.mending .load)
        failed.empty
      let mending := (contention.move id (.emptying .load) failed).move id (.mending .load)
        failed.empty
      have mends := caller_move empties (.loading none (mending.load id)) failed.empty.mend
      refine ⟨{ caller with stage := .loading none (mending.load id) }, ⟨mending.load id, rfl⟩,
        .move found fails ?_⟩
      refine .move (caller_move found ..) rfl ?_
      exact .move empties rfl (gets_here now mends)
  | ok looked' =>
      obtain ⟨found', value?⟩ := looked'
      rw [looked] at begins
      cases value? with
      | some value =>
          cases begins
          exact ⟨{ caller with stage := .returned (.ok value) }, rfl,
            .move found (act_hit looks looked) (gets_here now (caller_move found ..))⟩
      | none =>
          dsimp only at begins
          let missed : Coalescing K (Loaded V) := { found' with counters := found'.counters.miss }
          have acts : contention.act id caller now = contention.move id .joining missed :=
            act_missed looks looked
          have gone := caller_move found .joining missed
          cases joins : missed.join caller.key with
          | mk joined ticket? =>
              rw [joins] at begins
              cases ticket? with
              | some ticket =>
                  cases begins
                  obtain ⟨next, agrees, gets⟩ := gets_waiting gone rfl joins now
                  exact ⟨next, agrees, .move found acts gets⟩
              | none =>
                  have opens : (contention.move id .joining missed).act id
                      { caller with stage := .joining } now = _ := act_opened rfl joins
                  obtain ⟨next, agrees, gets⟩ :=
                    gets_leading (caller_move gone .leading joined) rfl begins
                  exact ⟨next, agrees, .move found acts (.move gone opens gets)⟩

/-- What a call is that waits for its loader. -/
def callOf (key : K) : Option Nat → Coalescing.Call K
  | some generation => .leading ⟨some key⟩ key generation
  | none => .direct

theorem step_finish {next : Stage V E} {result : Except E V}
    (found : contention.callers[id]? = some caller)
    (goes : caller.stage.finish? result = some next) :
    contention.step (.finish id result) = contention.move id next contention.cache := by
  rw [step, found, Option.bind_some, goes]

theorem gets_storing {generation : Nat} {value : Loaded V}
    (found : contention.callers[id]? = some caller)
    (stores : caller.stage = .storing generation value)
    (ends : (contention.cache.store caller.key value generation now).complete ⟨some caller.key⟩
      (.ok value : Answer V E) = (cache, notices)) :
    contention.Gets id now cache notices { caller with stage := .returned (.ok value) } := by
  rw [Coalescing.complete_eq, Coalescing.store_eq] at ends
  cases writes : contention.cache.write caller.key value generation now with
  | ok written =>
      rw [writes] at ends
      cases ends
      have completed := gets_completing now
        (caller_move found (.completing (some (.ok value))) written) rfl rfl
      exact .move found (act_written stores writes) completed
  | error failure =>
      rw [writes] at ends
      cases ends
      let failed : Coalescing K (Loaded V) :=
        { contention.cache with counters := contention.cache.counters.error }
      have acts : contention.act id caller now =
          contention.move id (.emptying (.complete (.ok value))) failed :=
        act_unwritten stores writes
      have empties := caller_move (caller_move found (.emptying (.complete (.ok value))) failed)
        (.mending (.complete (.ok value))) failed.empty
      have mends := caller_move empties (.completing (some (.ok value))) failed.empty.mend
      have completed := gets_completing now mends rfl rfl
      exact .move found acts (.move (caller_move found ..) rfl (.move empties rfl completed))

/-- To end a loader is to act until the caller returns. -/
theorem finish_alone {generation? : Option Nat} {load : Load} {result : Except E V}
    (found : contention.callers[id]? = some caller)
    (loads : caller.stage = .loading generation? load)
    (ends : contention.cache.finish (callOf caller.key generation?) (load.mark result) now =
      (cache, notices)) :
    (contention.step (.finish id result)).Gets id now cache notices
      { caller with stage := .returned (load.mark result) } := by
  cases generation? with
  | none =>
      cases ends
      have finishes : caller.stage.finish? result = some (.returned (load.mark result)) := by
        rw [loads]
        rfl
      rw [step_finish found finishes]
      exact gets_here now (caller_move found ..)
  | some generation =>
      cases result with
      | ok value =>
          have finishes : caller.stage.finish? (.ok value : Except E V) =
              some (.storing generation ⟨value, load⟩) := by
            rw [loads]
            rfl
          rw [step_finish found finishes]
          have stored := gets_storing
            (caller_move found (.storing generation ⟨value, load⟩) contention.cache) rfl ends
          exact stored
      | error error =>
          change contention.cache.complete ⟨some caller.key⟩ (.error ⟨error, load⟩ : Answer V E) = _
            at ends
          rw [Coalescing.complete_eq] at ends
          cases ends
          have finishes : caller.stage.finish? (.error error : Except E V) =
              some (.completing (some (.error ⟨error, load⟩))) := by
            rw [loads]
            rfl
          rw [step_finish found finishes]
          have completed := gets_completing now
            (caller_move found (.completing (some (.error ⟨error, load⟩))) contention.cache) rfl rfl
          exact completed

/-- To stop a caller that waits for its loader is to act until it has let go of its flight. -/
theorem stop_alone {generation? : Option Nat} {load : Load}
    (found : contention.callers[id]? = some caller)
    (loads : caller.stage = .loading generation? load)
    (ends : contention.cache.abandon (callOf caller.key generation?) = (cache, notices)) :
    (contention.step (.stop id)).Gets id now cache notices { caller with stage := .stopped } := by
  cases generation? with
  | none =>
      cases ends
      have stops : contention.step (.stop id) = contention.move id .stopped contention.cache := by
        rw [step, found, Option.bind_some, loads]
        rfl
      rw [stops]
      exact gets_here now (caller_move found ..)
  | some generation =>
      rw [callOf, Coalescing.abandon_leading] at ends
      cases ends
      have stops : contention.step (.stop id) =
          contention.move id (.completing none) contention.cache := by
        rw [step, found, Option.bind_some, loads]
        rfl
      rw [stops]
      have completed := gets_completing now
        (caller_move found (.completing none) contention.cache) rfl rfl
      exact completed

/-- A clear that nobody comes between empties the entries and lifts the poison. -/
theorem clear_alone (contention : Contention K V E) :
    ((contention.step .clear).step .mend).cache = contention.cache.clear := by
  rw [Coalescing.clear_eq]
  rfl

end Roster.Cache.Contention
