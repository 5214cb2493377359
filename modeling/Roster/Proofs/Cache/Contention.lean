import Roster.Cache.Contention
import Roster.Proofs.Cache.Steps

namespace Roster.Cache

/-! What one step does to callers that run at the same time. A flight is in the hands of one of them,
and whoever joins it is told of its end by that one. -/

variable {K V E : Type} [BEq K] [Hashable K]

namespace Coalescing

variable {cache after : Coalescing K V} {key : K} {now : Instant}

theorem lookup_eq_ok {found : Option V} (looks : cache.lookup key now = .ok (after, found)) :
    cache.poisoned = false ∧ ∃ entries, cache.entries.get key now = .ok (entries, found) ∧
      after = { cache with entries } := by
  rw [lookup] at looks
  split at looks
  · cases looks
  next working =>
    refine ⟨Bool.not_eq_true _ ▸ working, ?_⟩
    cases gets : cache.entries.get key now with
    | error failure =>
        rw [gets] at looks
        cases looks
    | ok got =>
        obtain ⟨entries, value?⟩ := got
        rw [gets] at looks
        cases looks
        exact ⟨entries, rfl, rfl⟩

theorem write_eq_ok {value : V} {generation : Nat}
    (writes : cache.write key value generation now = .ok after) :
    after = cache ∨ cache.poisoned = false ∧ cache.generation = generation ∧
      ∃ entries, cache.entries.insert key value now = .ok entries ∧
        after = { cache with entries, counters := cache.counters.put } := by
  rw [write] at writes
  split at writes
  · cases writes
  next working =>
    split at writes
    · cases writes
      exact .inl rfl
    next current =>
      refine .inr ⟨Bool.not_eq_true _ ▸ working, Decidable.not_not.mp current, ?_⟩
      cases inserts : cache.entries.insert key value now with
      | error failure =>
          rw [inserts] at writes
          cases writes
      | ok entries =>
          rw [inserts] at writes
          cases writes
          exact ⟨entries, rfl, rfl⟩

end Coalescing

namespace Contention

variable {contention after : Contention K V E} {event : Event K V E}

theorem run_append (events later : List (Event K V E)) :
    contention.run (events ++ later) = (contention.run events).run later :=
  List.foldl_append

/-! Steps of which it is known what the cache answers. -/

section Known

variable {id : Nat} {now : Instant} {caller : Caller K V E} {cache : Coalescing K (Loaded V)}
  {value : Loaded V} {failure : CacheError} {generation : Nat}

theorem step_act (found : contention.callers[id]? = some caller) :
    contention.step (.act id now) = contention.act id caller now := by
  rw [step, found]

theorem act_hit (looks : caller.stage = .looking)
    (finds : contention.cache.lookup caller.key now = .ok (cache, some value)) :
    contention.act id caller now =
      contention.move id (.returned (.ok value)) { cache with counters := cache.counters.hit } := by
  rw [act, looks]
  dsimp only
  rw [finds]

theorem act_missed (looks : caller.stage = .looking)
    (misses : contention.cache.lookup caller.key now = .ok (cache, none)) :
    contention.act id caller now =
      contention.move id .joining { cache with counters := cache.counters.miss } := by
  rw [act, looks]
  dsimp only
  rw [misses]

theorem act_failed (looks : caller.stage = .looking)
    (fails : contention.cache.lookup caller.key now = .error failure) :
    contention.act id caller now = contention.move id (.emptying .load)
      { contention.cache with counters := contention.cache.counters.error } := by
  rw [act, looks]
  dsimp only
  rw [fails]

theorem act_opened (joins : caller.stage = .joining)
    (opens : contention.cache.join caller.key = (cache, none)) :
    contention.act id caller now = contention.move id .leading cache := by
  rw [act, joins]
  dsimp only
  rw [opens]

theorem act_joined {ticket : Ticket} (joins : caller.stage = .joining)
    (joined : contention.cache.join caller.key = (cache, some ticket)) :
    contention.act id caller now = contention.enlist id caller.key ticket cache := by
  rw [act, joins]
  dsimp only
  rw [joined]

theorem act_hitAgain (checks : caller.stage = .checking generation)
    (finds : contention.cache.lookup caller.key now = .ok (cache, some value)) :
    contention.act id caller now = contention.move id (.completing (some (.ok value))) cache := by
  rw [act, checks]
  dsimp only
  rw [finds]

theorem act_missedAgain (checks : caller.stage = .checking generation)
    (misses : contention.cache.lookup caller.key now = .ok (cache, none)) :
    contention.act id caller now =
      contention.move id (.loading (some generation) (contention.load id)) cache := by
  rw [act, checks]
  dsimp only
  rw [misses]

theorem act_failedAgain (checks : caller.stage = .checking generation)
    (fails : contention.cache.lookup caller.key now = .error failure) :
    contention.act id caller now =
      contention.move id (.loading (some generation) (contention.load id)) contention.cache := by
  rw [act, checks]
  dsimp only
  rw [fails]

theorem act_written (stores : caller.stage = .storing generation value)
    (writes : contention.cache.write caller.key value generation now = .ok cache) :
    contention.act id caller now = contention.move id (.completing (some (.ok value))) cache := by
  rw [act, stores]
  dsimp only
  rw [writes]

theorem act_unwritten (stores : caller.stage = .storing generation value)
    (fails : contention.cache.write caller.key value generation now = .error failure) :
    contention.act id caller now = contention.move id (.emptying (.complete (.ok value)))
      { contention.cache with counters := contention.cache.counters.error } := by
  rw [act, stores]
  dsimp only
  rw [fails]

end Known

/-- The steps of a caller that leave all others where they are. -/
inductive Turn (contention : Contention K V E) (event : Event K V E) (id : Nat) (key : K) :
    Stage V E → Coalescing K (Loaded V) → Stage V E → Prop
  | hit {now : Instant} {entries : Lru K (Loaded V)} {value : Loaded V}
      (acts : event = .act id now) (working : contention.cache.poisoned = false)
      (gets : contention.cache.entries.get key now = .ok (entries, some value)) :
      Turn contention event id key .looking
        { contention.cache with entries, counters := contention.cache.counters.hit }
        (.returned (.ok value))
  | missed {now : Instant} {entries : Lru K (Loaded V)}
      (gets : contention.cache.entries.get key now = .ok (entries, none)) :
      Turn contention event id key .looking
        { contention.cache with entries, counters := contention.cache.counters.miss } .joining
  | failed :
      Turn contention event id key .looking
        { contention.cache with counters := contention.cache.counters.error } (.emptying .load)
  | opened (unled : contention.cache.waiters? key = none) :
      Turn contention event id key .joining
        { contention.cache with flights := contention.cache.flights ++ [(key, [])] } .leading
  | began :
      Turn contention event id key .leading contention.cache
        (.checking contention.cache.generation)
  | hitAgain (generation : Nat) {now : Instant} {entries : Lru K (Loaded V)} {value : Loaded V}
      (acts : event = .act id now) (working : contention.cache.poisoned = false)
      (gets : contention.cache.entries.get key now = .ok (entries, some value)) :
      Turn contention event id key (.checking generation) { contention.cache with entries }
        (.completing (some (.ok value)))
  | missedAgain (generation : Nat) {now : Instant} {entries : Lru K (Loaded V)}
      (gets : contention.cache.entries.get key now = .ok (entries, none)) :
      Turn contention event id key (.checking generation) { contention.cache with entries }
        (.loading (some generation) (contention.load id))
  | failedAgain (generation : Nat) :
      Turn contention event id key (.checking generation) contention.cache
        (.loading (some generation) (contention.load id))
  | kept {value : Loaded V} {now : Instant} {entries : Lru K (Loaded V)}
      (acts : event = .act id now) (working : contention.cache.poisoned = false)
      (inserts : contention.cache.entries.insert key value now = .ok entries) :
      Turn contention event id key (.storing contention.cache.generation value)
        { contention.cache with entries, counters := contention.cache.counters.put }
        (.completing (some (.ok value)))
  | outdated (generation : Nat) (value : Loaded V) :
      Turn contention event id key (.storing generation value) contention.cache
        (.completing (some (.ok value)))
  | unkept (generation : Nat) (value : Loaded V) :
      Turn contention event id key (.storing generation value)
        { contention.cache with counters := contention.cache.counters.error }
        (.emptying (.complete (.ok value)))
  | emptied (onward : Onward V E) :
      Turn contention event id key (.emptying onward) contention.cache.empty (.mending onward)
  | bypassed :
      Turn contention event id key (.mending .load) contention.cache.mend
        (.loading none (contention.load id))
  | mended (answer : Answer V E) :
      Turn contention event id key (.mending (.complete answer)) contention.cache.mend
        (.completing (some answer))
  | closed (result : Option (Answer V E)) :
      Turn contention event id key (.completing result) (contention.cache.takeWaiters key).1
        (.telling result (contention.cache.takeWaiters key).2)
  | returned (answer : Answer V E) :
      Turn contention event id key (.telling (some answer) []) contention.cache
        (.returned answer)
  | dropped : Turn contention event id key (.telling none []) contention.cache .stopped
  | answered (answer : Answer V E) :
      Turn contention event id key (.told (some answer)) contention.cache (.returned answer)
  | alone :
      Turn contention event id key (.told none) contention.cache
        (.loading none (contention.load id))
  | finished {stage next : Stage V E} {result : Except E V} (finishes : event = .finish id result)
      (goes : stage.finish? result = some next) :
      Turn contention event id key stage contention.cache next
  | stopped {stage next : Stage V E} (goes : stage.stop? = some next) :
      Turn contention event id key stage contention.cache next

/-- Everything that is said below of whole runs comes from these cases. -/
inductive Moved (contention : Contention K V E) (event : Event K V E) : Contention K V E → Prop
  | idle : Moved contention event (contention.tick contention.cache)
  | entered {key : K} (begins : event = .begin key) :
      Moved contention event
        { contention with
          callers := contention.callers ++ [{ key }]
          moment := contention.moment + 1 }
  | turned {id : Nat} {caller : Caller K V E} {stage : Stage V E}
      {cache : Coalescing K (Loaded V)} (found : contention.callers[id]? = some caller)
      (turn : Turn contention event id caller.key caller.stage cache stage) :
      Moved contention event (contention.move id stage cache)
  | joined {id : Nat} {caller : Caller K V E} {now : Instant} (acts : event = .act id now)
      (found : contention.callers[id]? = some caller) (joins : caller.stage = .joining)
      (led : (contention.cache.waiters? caller.key).isSome) :
      Moved contention event
        (contention.enlist id caller.key ⟨contention.cache.nextTicket⟩
          { contention.cache with
            nextTicket := contention.cache.nextTicket + 1
            flights := contention.cache.flights.map fun flight =>
              if flight.1 == caller.key then
                (flight.1, flight.2 ++ [⟨contention.cache.nextTicket⟩])
              else flight })
  | told {id : Nat} {teller : Caller K V E} {result : Option (Answer V E)} {ticket : Ticket}
      {rest : List Ticket} (found : contention.callers[id]? = some teller)
      (tells : teller.stage = .telling result (ticket :: rest)) :
      Moved contention event (contention.tell id ⟨ticket, result⟩ rest)
  | cleared (clears : event = .clear) :
      Moved contention event
        { contention.tick contention.cache.empty with unmended := contention.unmended + 1 }
  | mended :
      Moved contention event
        { contention.tick contention.cache.mend with unmended := contention.unmended - 1 }
  | poisoned : Moved contention event (contention.tick contention.cache.poison)

theorem moved_act {id : Nat} {caller : Caller K V E} {now : Instant}
    (found : contention.callers[id]? = some caller) (acts : event = .act id now) :
    contention.Moved event (contention.act id caller now) := by
  have turned {stage stage' : Stage V E} {cache : Coalescing K (Loaded V)}
      (stands : caller.stage = stage)
      (turn : Turn contention event id caller.key stage cache stage') :
      contention.Moved event (contention.move id stage' cache) :=
    .turned found (stands ▸ turn)
  unfold act
  split
  next stands =>
    split
    next looks =>
      obtain ⟨working, entries, gets, rfl⟩ := Coalescing.lookup_eq_ok looks
      exact turned stands (.hit acts working gets)
    next looks =>
      obtain ⟨-, entries, gets, rfl⟩ := Coalescing.lookup_eq_ok looks
      exact turned stands (.missed gets)
    next => exact turned stands .failed
  next stands =>
    rw [Coalescing.join]
    cases led : contention.cache.waiters? caller.key with
    | some tickets => exact .joined acts found stands (by rw [led]; rfl)
    | none => exact turned stands (.opened led)
  next stands => exact turned stands .began
  next generation stands =>
    split
    next looks =>
      obtain ⟨working, entries, gets, rfl⟩ := Coalescing.lookup_eq_ok looks
      exact turned stands (.hitAgain generation acts working gets)
    next looks =>
      obtain ⟨-, entries, gets, rfl⟩ := Coalescing.lookup_eq_ok looks
      exact turned stands (.missedAgain generation gets)
    next => exact turned stands (.failedAgain generation)
  next generation value stands =>
    split
    next writes =>
      rcases Coalescing.write_eq_ok writes with rfl | ⟨working, rfl, entries, inserts, rfl⟩
      · exact turned stands (.outdated generation value)
      · exact turned stands (.kept acts working inserts)
    next => exact turned stands (.unkept generation value)
  next result stands => exact turned stands (.closed result)
  next stands => exact .told found stands
  next answer stands => exact turned stands (.returned answer)
  next stands => exact turned stands .dropped
  next answer stands => exact turned stands (.answered answer)
  next stands => exact turned stands .alone
  next onward stands => exact turned stands (.emptied onward)
  next stands => exact turned stands .bypassed
  next answer stands => exact turned stands (.mended answer)
  next => exact .idle

theorem moved (contention : Contention K V E) (event : Event K V E) :
    contention.Moved event (contention.step event) := by
  unfold step
  split
  next => exact .entered rfl
  next id now =>
    split
    next found => exact moved_act found rfl
    next => exact .idle
  next id result =>
    split
    next goes =>
      obtain ⟨caller, found, goes⟩ := Option.bind_eq_some_iff.mp goes
      exact .turned found (.finished rfl goes)
    next => exact .idle
  next id =>
    split
    next goes =>
      obtain ⟨caller, found, goes⟩ := Option.bind_eq_some_iff.mp goes
      exact .turned found (.stopped goes)
    next => exact .idle
  next => exact .cleared rfl
  next =>
    split
    · exact .idle
    · exact .mended
  next => exact .poisoned

omit [BEq K] [Hashable K] in
/-- Only a caller that waits and holds the ticket hears a notice. -/
theorem Caller.hear_cases (caller : Caller K V E) (notice : Notice (Loaded V) (Loaded E)) :
    caller.hear notice = caller ∨ caller.stage = .waiting ∧ caller.ticket? = some notice.ticket ∧
      caller.hear notice = { caller with stage := .told notice.result } := by
  unfold hear
  split
  next waits =>
    by_cases holds : caller.ticket? = some notice.ticket
    · exact .inr ⟨waits, holds, if_pos holds⟩
    · exact .inl (if_neg holds)
  next => exact .inl rfl

def Leads (contention : Contention K V E) (id : Nat) (key : K) : Prop :=
  ∃ caller, contention.callers[id]? = some caller ∧ caller.leads key

/-- The callers whom the caller has yet to tell of the end of its flight. -/
def Stage.tickets : Stage V E → List Ticket
  | .telling _ tickets => tickets
  | _ => []

/-! Callers after a step. -/

theorem callers_move (id other : Nat) (stage : Stage V E) (cache : Coalescing K (Loaded V)) :
    (contention.move id stage cache).callers[other]? =
      contention.callers[other]?.map fun caller =>
        if id = other then { caller with stage } else caller := by
  rw [move, List.getElem?_modify]
  split <;> simp [Option.map_id']

theorem callers_enlist (id other : Nat) (key : K) (ticket : Ticket)
    (cache : Coalescing K (Loaded V)) :
    (contention.enlist id key ticket cache).callers[other]? =
      contention.callers[other]?.map fun caller =>
        if id = other then
          { caller with
            leader? := contention.leader? key
            ticket? := some ticket
            stage := .waiting }
        else caller := by
  rw [enlist, List.getElem?_modify]
  split <;> simp [Option.map_id']

theorem callers_tell (id other : Nat) (notice : Notice (Loaded V) (Loaded E))
    (rest : List Ticket) :
    (contention.tell id notice rest).callers[other]? =
      contention.callers[other]?.map fun caller =>
        if id = other then { caller.hear notice with stage := .telling notice.result rest }
        else caller.hear notice := by
  rw [tell, List.getElem?_modify, List.getElem?_map, Option.map_eq_map, Option.map_map]
  split <;> rfl

/-- What becomes of a caller in one step. -/
inductive Went (contention : Contention K V E) (event : Event K V E) (id : Nat)
    (caller : Caller K V E) : Caller K V E → Prop
  | stayed : Went contention event id caller caller
  | turned {cache : Coalescing K (Loaded V)} {stage : Stage V E}
      (turn : Turn contention event id caller.key caller.stage cache stage) :
      Went contention event id caller { caller with stage }
  | joined {now : Instant} (acts : event = .act id now) (joins : caller.stage = .joining)
      (led : (contention.cache.waiters? caller.key).isSome) :
      Went contention event id caller
        { caller with
          leader? := contention.leader? caller.key
          ticket? := some ⟨contention.cache.nextTicket⟩
          stage := .waiting }
  | spoke {result : Option (Answer V E)} {ticket : Ticket} {rest : List Ticket}
      (tells : caller.stage = .telling result (ticket :: rest)) :
      Went contention event id caller { caller with stage := .telling result rest }
  | woken {place : Nat} {teller : Caller K V E} {result : Option (Answer V E)} {ticket : Ticket}
      {rest : List Ticket} (waits : caller.stage = .waiting) (holds : caller.ticket? = some ticket)
      (found : contention.callers[place]? = some teller)
      (tells : teller.stage = .telling result (ticket :: rest)) :
      Went contention event id caller { caller with stage := .told result }

theorem Moved.went (moved : contention.Moved event after) {id : Nat} {caller : Caller K V E}
    (found : contention.callers[id]? = some caller) :
    ∃ next, after.callers[id]? = some next ∧ contention.Went event id caller next := by
  cases moved with
  | idle | cleared | mended | poisoned => exact ⟨caller, found, .stayed⟩
  | entered =>
      refine ⟨caller, ?_, .stayed⟩
      exact (List.getElem?_append_left (List.getElem?_eq_some_iff.mp found).1).trans found
  | @turned mover other stage cache known turn =>
      rw [callers_move, found]
      refine ⟨_, rfl, ?_⟩
      split
      · subst mover
        cases known.symm.trans found
        exact .turned turn
      · exact .stayed
  | @joined mover other now acts known joins led =>
      rw [callers_enlist, found]
      refine ⟨_, rfl, ?_⟩
      split
      · subst mover
        cases known.symm.trans found
        exact .joined acts joins led
      · exact .stayed
  | @told mover teller result ticket rest known tells =>
      rw [callers_tell, found]
      refine ⟨_, rfl, ?_⟩
      dsimp only
      split
      · subst mover
        cases known.symm.trans found
        rcases caller.hear_cases ⟨ticket, result⟩ with same | ⟨waits, -, -⟩
        · rw [same]
          exact .spoke tells
        · cases tells.symm.trans waits
      · rcases caller.hear_cases ⟨ticket, result⟩ with same | ⟨waits, holds, told⟩
        · rw [same]
          exact .stayed
        · rw [told]
          exact .woken waits holds known tells

/-- A caller after a step was there before, or has just begun. -/
theorem Moved.caller_cases (moved : contention.Moved event after) {id : Nat}
    {caller : Caller K V E} (found : after.callers[id]? = some caller) :
    (∃ before, contention.callers[id]? = some before ∧ contention.Went event id before caller) ∨
      ∃ key, event = .begin key ∧ caller = { key } := by
  by_cases known : id < contention.callers.length
  · obtain ⟨before, known⟩ : ∃ before, contention.callers[id]? = some before :=
      ⟨_, List.getElem?_eq_getElem known⟩
    obtain ⟨next, found', went⟩ := moved.went known
    cases found'.symm.trans found
    exact .inl ⟨before, known, went⟩
  · have absent : contention.callers[id]? = none := List.getElem?_eq_none (Nat.le_of_not_lt known)
    refine .inr ?_
    cases moved with
    | idle | cleared | mended | poisoned => cases absent.symm.trans found
    | @entered key begins =>
        refine ⟨key, begins, ?_⟩
        rw [List.getElem?_append_right (Nat.le_of_not_lt known)] at found
        exact List.mem_singleton.mp (List.mem_of_getElem? found)
    | turned =>
        rw [callers_move, absent] at found
        cases found
    | joined =>
        rw [callers_enlist, absent] at found
        cases found
    | told =>
        rw [callers_tell, absent] at found
        cases found

@[simp]
theorem Went.key_eq {id : Nat} {caller next : Caller K V E}
    (went : contention.Went event id caller next) : next.key = caller.key := by
  cases went <;> rfl

/-- What one step can do to the entries. -/
inductive Touched (contention : Contention K V E) (event : Event K V E) (after : Contention K V E) :
    Prop
  | untouched (entries : after.cache.entries = contention.cache.entries)
      (generation : after.cache.generation = contention.cache.generation)
  | looked {key : K} {now : Instant} {found : Option (Loaded V)}
      (gets : contention.cache.entries.get key now = .ok (after.cache.entries, found))
      (generation : after.cache.generation = contention.cache.generation)
  | stored {id : Nat} {caller : Caller K V E} {value : Loaded V} {now : Instant}
      (acts : event = .act id now) (found : contention.callers[id]? = some caller)
      (storing : caller.stage = .storing contention.cache.generation value)
      (inserts : contention.cache.entries.insert caller.key value now = .ok after.cache.entries)
      (generation : after.cache.generation = contention.cache.generation)
  | emptied (entries : after.cache.entries = contention.cache.entries.clear)

theorem Moved.touched (moved : contention.Moved event after) : contention.Touched event after := by
  cases moved with
  | idle | entered | joined | told | mended | poisoned => exact .untouched rfl rfl
  | cleared => exact .emptied rfl
  | @turned id caller stage cache found turn =>
      generalize stands : caller.stage = stood at turn
      cases turn with
      | hit _ _ gets | missed gets | hitAgain _ _ _ gets | missedAgain _ gets =>
          exact .looked gets rfl
      | kept acts _ inserts => exact .stored acts found stands inserts rfl
      | emptied => exact .emptied rfl
      | _ => exact .untouched rfl rfl

theorem leads_of_leader? {key : K} {id : Nat} (leads : contention.leader? key = some id) :
    contention.Leads id key := by
  obtain ⟨bounded, leading, -⟩ := List.findIdx?_eq_some_iff_getElem.mp leads
  exact ⟨_, List.getElem?_eq_getElem bounded, leading⟩

/-! Who leads a flight, and who follows. -/

omit [BEq K] [Hashable K] in
theorem Stage.leads_finish? {stage next : Stage V E} {result : Except E V}
    (goes : stage.finish? result = some next) :
    next.leads = stage.leads ∧ next.tickets = [] := by
  unfold finish? at goes
  split at goes
  · cases goes
    exact ⟨rfl, rfl⟩
  · split at goes <;> cases goes <;> exact ⟨rfl, rfl⟩
  · cases goes

omit [BEq K] [Hashable K] in
theorem Stage.leads_stop? {stage next : Stage V E} (goes : stage.stop? = some next) :
    next.leads = stage.leads ∧ next.tickets = [] := by
  unfold stop? at goes
  split at goes <;> cases goes <;> exact ⟨rfl, rfl⟩

/-- A caller opens a flight, or closes one, or leaves all flights and leads alone. -/
theorem Turn.cases_lead {id : Nat} {key : K} {stage next : Stage V E}
    {cache : Coalescing K (Loaded V)} (turn : contention.Turn event id key stage cache next) :
    (next.leads = stage.leads ∧ next.tickets = [] ∧ cache.flights = contention.cache.flights ∧
      cache.nextTicket = contention.cache.nextTicket) ∨
    (contention.cache.waiters? key = none ∧ stage = .joining ∧ next = .leading ∧
      cache = { contention.cache with flights := contention.cache.flights ++ [(key, [])] }) ∨
    ∃ result, stage = .completing result ∧ cache = (contention.cache.takeWaiters key).1 ∧
      next = .telling result (contention.cache.takeWaiters key).2 := by
  cases turn with
  | opened unled => exact .inr (.inl ⟨unled, rfl, rfl, rfl⟩)
  | closed result => exact .inr (.inr ⟨result, rfl, rfl, rfl⟩)
  | finished _ goes =>
      obtain ⟨leads, tickets⟩ := Stage.leads_finish? goes
      exact .inl ⟨leads, tickets, rfl, rfl⟩
  | stopped goes =>
      obtain ⟨leads, tickets⟩ := Stage.leads_stop? goes
      exact .inl ⟨leads, tickets, rfl, rfl⟩
  | emptied onward => cases onward <;> exact .inl ⟨rfl, rfl, rfl, rfl⟩
  | _ => exact .inl ⟨rfl, rfl, rfl, rfl⟩

/-- Whoever holds the ticket has joined the flight of this leader. -/
def Follows (contention : Contention K V E) (ticket : Ticket) (leader : Nat) (key : K) : Prop :=
  ticket.number < contention.cache.nextTicket ∧
    ∀ caller ∈ contention.callers, caller.ticket? = some ticket →
      caller.leader? = some leader ∧ caller.key == key

theorem Moved.nextTicket_le (moved : contention.Moved event after) :
    contention.cache.nextTicket ≤ after.cache.nextTicket := by
  cases moved with
  | joined => exact Nat.le_succ _
  | turned found turn =>
      rcases turn.cases_lead with ⟨-, -, -, same⟩ | ⟨-, -, -, rfl⟩ | ⟨result, -, rfl, -⟩
      · exact Nat.le_of_eq same.symm
      · exact Nat.le_refl _
      · exact Nat.le_refl _
  | _ => exact Nat.le_refl _

theorem Follows.moved {ticket : Ticket} {leader : Nat} {key : K}
    (follows : contention.Follows ticket leader key) (moved : contention.Moved event after) :
    after.Follows ticket leader key := by
  obtain ⟨issued, joined⟩ := follows
  refine ⟨Nat.lt_of_lt_of_le issued moved.nextTicket_le, ?_⟩
  intro caller member holds
  obtain ⟨id, found⟩ := List.mem_iff_getElem?.mp member
  rcases moved.caller_cases found with ⟨before, known, went⟩ | ⟨key, -, rfl⟩
  · have follows := joined before (List.mem_of_getElem? known)
    cases went with
    | joined =>
        -- Its ticket is a new one.
        cases holds
        exact absurd issued (Nat.lt_irrefl _)
    | stayed | turned | spoke | woken => exact follows holds
  · cases holds

/-- A flight is open as long as one caller, and only one, leads it. -/
structure Led (contention : Contention K V E) : Prop where
  open_of_leads : ∀ {id key}, contention.Leads id key → (contention.cache.waiters? key).isSome
  unique : ∀ {id other key}, contention.Leads id key → contention.Leads other key → id = other
  queued : ∀ {key tickets}, contention.cache.waiters? key = some tickets →
    ∃ leader, contention.Leads leader key ∧
      ∀ ticket ∈ tickets, contention.Follows ticket leader key
  telling : ∀ {id : Nat} {teller}, contention.callers[id]? = some teller →
    ∀ ticket ∈ teller.stage.tickets, contention.Follows ticket id teller.key
  held : ∀ {caller ticket}, caller ∈ contention.callers → caller.ticket? = some ticket →
    ticket.number < contention.cache.nextTicket

theorem leads_move {id other : Nat} {stage : Stage V E} {cache : Coalescing K (Loaded V)}
    {caller : Caller K V E} (found : contention.callers[id]? = some caller) {key : K} :
    (contention.move id stage cache).Leads other key ↔
      if id = other then stage.leads = true ∧ (caller.key == key) = true
      else contention.Leads other key := by
  simp only [Leads, callers_move]
  by_cases same : id = other
  · subst other
    simp [found, Caller.leads]
  · simp [same]

/-- No flight is opened, joined or closed. -/
structure Quiet (contention after : Contention K V E) : Prop where
  flights : after.cache.flights = contention.cache.flights
  callers : ∀ {id : Nat} {before next}, contention.callers[id]? = some before →
    after.callers[id]? = some next →
      next.ticket? = before.ticket? ∧ next.stage.leads = before.stage.leads ∧
        next.stage.tickets ⊆ before.stage.tickets

theorem Quiet.same {contention after : Contention K V E}
    (flights : after.cache.flights = contention.cache.flights)
    (callers : after.callers = contention.callers) : contention.Quiet after := by
  refine ⟨flights, ?_⟩
  intro id before next known found
  rw [callers] at found
  cases known.symm.trans found
  exact ⟨rfl, rfl, List.Subset.refl _⟩

theorem Quiet.leads_iff (quiet : contention.Quiet after) (moved : contention.Moved event after)
    {id : Nat} {key : K} : after.Leads id key ↔ contention.Leads id key := by
  constructor
  · rintro ⟨next, found, leading⟩
    rcases moved.caller_cases found with ⟨before, known, went⟩ | ⟨own, -, rfl⟩
    · obtain ⟨-, leads, -⟩ := quiet.callers known found
      rw [Caller.leads, leads, went.key_eq] at leading
      exact ⟨before, known, leading⟩
    · cases leading
  · rintro ⟨before, known, leading⟩
    obtain ⟨next, found, went⟩ := moved.went known
    obtain ⟨-, leads, -⟩ := quiet.callers known found
    refine ⟨next, found, ?_⟩
    rw [Caller.leads, leads, went.key_eq]
    exact leading

theorem Led.quiet (led : contention.Led) (moved : contention.Moved event after)
    (quiet : contention.Quiet after) : after.Led := by
  have waiters (key : K) : after.cache.waiters? key = contention.cache.waiters? key := by
    rw [Coalescing.waiters?, quiet.flights, Coalescing.waiters?]
  constructor
  case open_of_leads =>
    intro id key leads
    rw [waiters]
    exact led.open_of_leads ((quiet.leads_iff moved).mp leads)
  case unique =>
    intro id other key leads leads'
    exact led.unique ((quiet.leads_iff moved).mp leads) ((quiet.leads_iff moved).mp leads')
  case queued =>
    intro key tickets queue
    rw [waiters] at queue
    obtain ⟨leader, leads, follow⟩ := led.queued queue
    exact ⟨leader, (quiet.leads_iff moved).mpr leads,
      fun ticket member => (follow ticket member).moved moved⟩
  case telling =>
    intro id teller found ticket member
    rcases moved.caller_cases found with ⟨before, known, went⟩ | ⟨own, -, rfl⟩
    · obtain ⟨-, -, fewer⟩ := quiet.callers known found
      rw [went.key_eq]
      exact (led.telling known ticket (fewer member)).moved moved
    · cases member
  case held =>
    intro caller ticket member holds
    obtain ⟨id, found⟩ := List.mem_iff_getElem?.mp member
    rcases moved.caller_cases found with ⟨before, known, went⟩ | ⟨own, -, rfl⟩
    · obtain ⟨sameTicket, -, -⟩ := quiet.callers known found
      rw [sameTicket] at holds
      exact Nat.lt_of_lt_of_le (led.held (List.mem_of_getElem? known) holds) moved.nextTicket_le
    · cases holds

section Equality

variable [EquivBEq K]

theorem Led.opened (led : contention.Led) (moved : contention.Moved event after) {id : Nat}
    {caller : Caller K V E} (found : contention.callers[id]? = some caller)
    (joins : caller.stage = .joining)
    (unled : contention.cache.waiters? caller.key = none)
    (opens : after = contention.move id .leading
      { contention.cache with flights := contention.cache.flights ++ [(caller.key, [])] }) :
    after.Led := by
  subst opens
  have aside {key : K} {other : Nat} (leads : contention.Leads other key) :
      (caller.key == key) = false := by
    cases equal : caller.key == key with
    | false => rfl
    | true =>
        have flight := led.open_of_leads leads
        rw [← Coalescing.waiters?_congr equal, unled] at flight
        cases flight
  constructor
  case open_of_leads =>
    intro other key leads
    change (Coalescing.waiters? { contention.cache with
      flights := contention.cache.flights ++ [(caller.key, [])] } key).isSome
    rw [Coalescing.waiters?_launch unled]
    rw [leads_move found] at leads
    split at leads
    · rw [if_pos leads.2]
      rfl
    · rw [if_neg (by simp [aside leads])]
      exact led.open_of_leads leads
  case unique =>
    intro one other key leads leads'
    rw [leads_move found] at leads leads'
    split at leads
    next same =>
      split at leads'
      next same' => exact same.symm.trans same'
      next => cases (aside leads').symm.trans leads.2
    next =>
      split at leads'
      next => cases (aside leads).symm.trans leads'.2
      next => exact led.unique leads leads'
  case queued =>
    intro key tickets queue
    change Coalescing.waiters? { contention.cache with
      flights := contention.cache.flights ++ [(caller.key, [])] } key = _ at queue
    rw [Coalescing.waiters?_launch unled] at queue
    split at queue
    next equal =>
      cases queue
      refine ⟨id, (leads_move found).mpr ?_, nofun⟩
      rw [if_pos rfl]
      exact ⟨rfl, equal⟩
    next apart =>
      obtain ⟨leader, leads, follow⟩ := led.queued queue
      refine ⟨leader, (leads_move found).mpr ?_, fun ticket member =>
        (follow ticket member).moved moved⟩
      split
      next same =>
        subst leader
        obtain ⟨other, known, leading⟩ := leads
        cases found.symm.trans known
        simp [Caller.leads, joins, Stage.leads] at leading
      next => exact leads
  case telling =>
    intro other teller found' ticket member
    rw [callers_move] at found'
    obtain ⟨before, known, rfl⟩ := Option.map_eq_some_iff.mp found'
    split at member
    next => cases member
    next apart =>
      rw [if_neg apart]
      exact (led.telling known ticket member).moved moved
  case held =>
    intro other ticket member holds
    obtain ⟨place, found'⟩ := List.mem_iff_getElem?.mp member
    rw [callers_move] at found'
    obtain ⟨before, known, rfl⟩ := Option.map_eq_some_iff.mp found'
    refine led.held (List.mem_of_getElem? known) ?_
    split at holds <;> exact holds

theorem Led.closed (led : contention.Led) (moved : contention.Moved event after) {id : Nat}
    {caller : Caller K V E} (found : contention.callers[id]? = some caller)
    {result : Option (Answer V E)} (completes : caller.stage = .completing result)
    (closes : after = contention.move id
      (.telling result (contention.cache.takeWaiters caller.key).2)
      (contention.cache.takeWaiters caller.key).1) : after.Led := by
  subst closes
  have own {key : K} (equal : caller.key == key) : contention.Leads id key :=
    ⟨caller, found, by simp [Caller.leads, completes, Stage.leads, equal]⟩
  have remains {other : Nat} {key : K} (leads : (contention.move id
      (.telling result (contention.cache.takeWaiters caller.key).2)
      (contention.cache.takeWaiters caller.key).1).Leads other key) :
      id ≠ other ∧ contention.Leads other key := by
    rw [leads_move found] at leads
    split at leads
    next => simp [Stage.leads] at leads
    next apart => exact ⟨apart, leads⟩
  constructor
  case open_of_leads =>
    intro other key leads
    obtain ⟨apart, leads⟩ := remains leads
    change ((contention.cache.takeWaiters caller.key).1.waiters? key).isSome
    rw [Coalescing.waiters?_takeWaiters, if_neg fun equal => apart (led.unique (own equal) leads)]
    exact led.open_of_leads leads
  case unique =>
    intro one other key leads leads'
    exact led.unique (remains leads).2 (remains leads').2
  case queued =>
    intro key tickets queue
    change (contention.cache.takeWaiters caller.key).1.waiters? key = _ at queue
    rw [Coalescing.waiters?_takeWaiters] at queue
    split at queue
    next => cases queue
    next apart =>
      obtain ⟨leader, leads, follow⟩ := led.queued queue
      refine ⟨leader, (leads_move found).mpr ?_, fun ticket member =>
        (follow ticket member).moved moved⟩
      rw [if_neg]
      · exact leads
      · rintro rfl
        obtain ⟨other, known, leading⟩ := leads
        cases found.symm.trans known
        simp [Caller.leads, apart] at leading
  case telling =>
    intro other teller found' ticket member
    rw [callers_move] at found'
    obtain ⟨before, known, rfl⟩ := Option.map_eq_some_iff.mp found'
    split at member
    next same =>
      subst same
      cases found.symm.trans known
      rw [if_pos rfl]
      change ticket ∈ (contention.cache.waiters? caller.key).getD [] at member
      cases queue : contention.cache.waiters? caller.key with
      | none =>
          rw [queue] at member
          cases member
      | some tickets =>
          rw [queue] at member
          obtain ⟨leader, leads, follow⟩ := led.queued queue
          cases led.unique (own BEq.rfl) leads
          exact (follow ticket member).moved moved
    next apart =>
      rw [if_neg apart]
      exact (led.telling known ticket member).moved moved
  case held =>
    intro other ticket member holds
    obtain ⟨place, found'⟩ := List.mem_iff_getElem?.mp member
    rw [callers_move] at found'
    obtain ⟨before, known, rfl⟩ := Option.map_eq_some_iff.mp found'
    refine led.held (List.mem_of_getElem? known) ?_
    split at holds <;> exact holds

omit [EquivBEq K] in
theorem leads_enlist {id other : Nat} {caller : Caller K V E}
    (found : contention.callers[id]? = some caller) (joins : caller.stage = .joining) {key own : K}
    {ticket : Ticket} {cache : Coalescing K (Loaded V)} :
    (contention.enlist id own ticket cache).Leads other key ↔ contention.Leads other key := by
  simp only [Leads, callers_enlist]
  by_cases same : id = other
  · subst other
    simp [found, Caller.leads, joins, Stage.leads]
  · simp [same]

omit [EquivBEq K] in
theorem Led.leader? (led : contention.Led) {id : Nat} {key : K}
    (leads : contention.Leads id key) : contention.leader? key = some id := by
  cases searched : contention.leader? key with
  | none =>
      obtain ⟨caller, found, leading⟩ := leads
      have nobody := List.findIdx?_eq_none_iff.mp searched caller (List.mem_of_getElem? found)
      rw [leading] at nobody
      cases nobody
  | some first =>
      obtain ⟨bounded, leading, -⟩ := List.findIdx?_eq_some_iff_getElem.mp searched
      rw [led.unique leads ⟨_, List.getElem?_eq_getElem bounded, leading⟩]

theorem Led.joined (led : contention.Led) (moved : contention.Moved event after) {id : Nat}
    {caller : Caller K V E} (found : contention.callers[id]? = some caller)
    (joins : caller.stage = .joining)
    (enlists : after = contention.enlist id caller.key ⟨contention.cache.nextTicket⟩
      { contention.cache with
        nextTicket := contention.cache.nextTicket + 1
        flights := contention.cache.flights.map fun flight =>
          if flight.1 == caller.key then (flight.1, flight.2 ++ [⟨contention.cache.nextTicket⟩])
          else flight }) :
    after.Led := by
  have leads_iff {other : Nat} {key : K} : after.Leads other key ↔ contention.Leads other key := by
    rw [enlists]
    exact leads_enlist found joins
  have waiters (key : K) : after.cache.waiters? key =
      if caller.key == key then
        (contention.cache.waiters? key).map (· ++ [⟨contention.cache.nextTicket⟩])
      else contention.cache.waiters? key := by
    rw [enlists]
    exact Coalescing.waiters?_enlist ⟨contention.cache.nextTicket⟩ key
  have issued : after.cache.nextTicket = contention.cache.nextTicket + 1 := by
    rw [enlists]
    rfl
  have callers_eq {other : Nat} {next : Caller K V E} (found' : after.callers[other]? = some next) :
      ∃ before, contention.callers[other]? = some before ∧
        (next = before ∨ other = id ∧ next =
          { caller with
            leader? := contention.leader? caller.key
            ticket? := some ⟨contention.cache.nextTicket⟩
            stage := .waiting }) := by
    rw [enlists, callers_enlist] at found'
    obtain ⟨before, known, rfl⟩ := Option.map_eq_some_iff.mp found'
    refine ⟨before, known, ?_⟩
    split
    next same =>
      subst same
      cases found.symm.trans known
      exact .inr ⟨rfl, rfl⟩
    next => exact .inl rfl
  constructor
  case open_of_leads =>
    intro other key leads
    have flight := led.open_of_leads (leads_iff.mp leads)
    rw [waiters]
    split
    · rwa [Option.isSome_map]
    · exact flight
  case unique =>
    intro one other key leads leads'
    exact led.unique (leads_iff.mp leads) (leads_iff.mp leads')
  case queued =>
    intro key tickets queue
    rw [waiters] at queue
    split at queue
    next equal =>
      obtain ⟨earlier, queue', rfl⟩ := Option.map_eq_some_iff.mp queue
      obtain ⟨leader, leads, follow⟩ := led.queued queue'
      refine ⟨leader, leads_iff.mpr leads, ?_⟩
      intro ticket member
      rcases List.mem_append.mp member with old | new
      · exact (follow ticket old).moved moved
      · cases List.mem_singleton.mp new
        refine ⟨by rw [issued]; exact Nat.lt_succ_self _, ?_⟩
        intro other present holds
        obtain ⟨place, found'⟩ := List.mem_iff_getElem?.mp present
        obtain ⟨before, known, rfl | ⟨-, rfl⟩⟩ := callers_eq found'
        · exact absurd (led.held (List.mem_of_getElem? known) holds) (Nat.lt_irrefl _)
        · obtain ⟨own, ownFound, ownLeads⟩ := leads
          refine ⟨led.leader? ⟨own, ownFound, ?_⟩, equal⟩
          simp only [Caller.leads, Bool.and_eq_true] at ownLeads ⊢
          exact ⟨ownLeads.1, BEq.trans ownLeads.2 (BEq.symm equal)⟩
    next =>
      obtain ⟨leader, leads, follow⟩ := led.queued queue
      exact ⟨leader, leads_iff.mpr leads, fun ticket member => (follow ticket member).moved moved⟩
  case telling =>
    intro other teller found' ticket member
    obtain ⟨before, known, rfl | ⟨-, rfl⟩⟩ := callers_eq found'
    · exact (led.telling known ticket member).moved moved
    · cases member
  case held =>
    intro other ticket present holds
    obtain ⟨place, found'⟩ := List.mem_iff_getElem?.mp present
    rw [issued]
    obtain ⟨before, known, rfl | ⟨-, rfl⟩⟩ := callers_eq found'
    · exact Nat.lt_succ_of_lt (led.held (List.mem_of_getElem? known) holds)
    · cases holds
      exact Nat.lt_succ_self _

/-- Every step keeps one leader to a flight. -/
theorem Led.moved (led : contention.Led) (moved : contention.Moved event after) : after.Led := by
  have kept := moved
  cases moved with
  | idle | cleared | mended | poisoned => exact led.quiet kept (.same rfl rfl)
  | joined acts found joins => exact led.joined kept found joins rfl
  | entered =>
      refine led.quiet kept ⟨rfl, ?_⟩
      intro id before next known found
      rw [List.getElem?_append_left (List.getElem?_eq_some_iff.mp known).1] at found
      cases known.symm.trans found
      exact ⟨rfl, rfl, List.Subset.refl _⟩
  | @turned id caller stage cache found turn =>
      rcases turn.cases_lead with ⟨leads, tickets, flights, -⟩ | ⟨unled, joins, rfl, rfl⟩ |
        ⟨result, completes, rfl, rfl⟩
      · refine led.quiet kept ⟨flights, ?_⟩
        intro other before next known found'
        rw [callers_move, known] at found'
        cases found'
        dsimp only
        split
        next same =>
          subst same
          cases found.symm.trans known
          exact ⟨rfl, leads, by simp [tickets]⟩
        next => exact ⟨rfl, rfl, List.Subset.refl _⟩
      · exact led.opened kept found joins unled rfl
      · exact led.closed kept found completes rfl
  | @told id teller result ticket rest found tells =>
      refine led.quiet kept ⟨rfl, ?_⟩
      intro other before next known found'
      rw [callers_tell, known] at found'
      cases found'
      rcases before.hear_cases ⟨ticket, result⟩ with same | ⟨waits, -, told⟩
      · dsimp only
        rw [same]
        split
        next same =>
          subst same
          cases found.symm.trans known
          refine ⟨rfl, by rw [tells]; rfl, ?_⟩
          rw [tells]
          exact List.subset_cons_self ticket rest
        next => exact ⟨rfl, rfl, List.Subset.refl _⟩
      · dsimp only
        rw [told]
        split
        next same =>
          subst same
          cases found.symm.trans known
          cases waits.symm.trans tells
        next =>
          refine ⟨rfl, ?_, ?_⟩
          · rw [waits]
            rfl
          · exact List.nil_subset _

omit [EquivBEq K] in
theorem Led.start (name : String) (capacity : Nat) (ttl : Span) :
    (start name capacity ttl : Contention K V E).Led where
  open_of_leads := by
    rintro id key ⟨caller, found, -⟩
    cases found
  unique := by
    rintro id other key ⟨caller, found, -⟩
    cases found
  queued queue := by cases queue
  telling found := by cases found
  held member := by cases member

theorem Led.run (led : contention.Led) (events : List (Event K V E)) :
    (contention.run events).Led := by
  induction events generalizing contention with
  | nil => exact led
  | cons event rest ih => exact ih (led.moved (contention.moved event))

end Equality

end Contention

end Roster.Cache
