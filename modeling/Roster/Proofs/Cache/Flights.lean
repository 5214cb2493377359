import Roster.Proofs.Cache.Traffic

namespace Roster.Cache

/-! Flights and those who wait for them. Every flight has one leader, and whoever waits is known to the
flight for its own key, so the end of the leader reaches it. -/

variable {K V E : Type}

/-- A caller that waits has not been told anything, and one that has been told was told once. -/
def Caller.Heard (caller : Caller K V E) : Prop :=
  match caller.stage with
  | .waiting => caller.notices = []
  | .told notice => caller.notices = [notice]
  | _ => caller.notices.length ≤ 1

namespace Caller.Heard

variable {caller : Caller K V E}

theorem length_le (heard : caller.Heard) : caller.notices.length ≤ 1 := by
  rw [Heard] at heard
  split at heard
  · simp [heard]
  · simp [heard]
  · exact heard

theorem of_length_le {stage : Stage K V E} (awake : stage ≠ .waiting)
    (untold : ∀ notice, stage ≠ .told notice) (once : caller.notices.length ≤ 1) :
    ({ caller with stage }).Heard := by
  rw [Heard]
  split
  · exact absurd ‹_› awake
  · exact absurd ‹_› (untold _)
  · exact once

theorem tell (heard : caller.Heard) (unheard : caller.notices = [])
    (result : Option (Answer V E)) : (caller.tell result).Heard := by
  cases stands : caller.stage with
  | waiting => simp [Heard, Caller.tell, stands, unheard]
  | told notice =>
      rw [Heard, stands] at heard
      simp [unheard] at heard
  | _ => simp [Heard, Caller.tell, stands, unheard]

end Caller.Heard

namespace Traffic

variable [BEq K] [Hashable K]

/-- A key has a flight when somebody leads it, and nobody else does. -/
structure Led (traffic : Traffic K V E) : Prop where
  flying_iff : ∀ key, (traffic.cache.waiters? key).isSome ↔ ∃ id, traffic.Leads id key
  alone : ∀ {id other key}, traffic.Leads id key → traffic.Leads other key → id = other

/-- Whoever waits is registered for its own key, and every registered ticket belongs to a caller that
has not been told anything yet. -/
structure Ticketed (traffic : Traffic K V E) : Prop where
  registered : ∀ {caller}, caller ∈ traffic.callers → caller.stage = .waiting →
    ∃ ticket tickets, caller.ticket? = some ticket ∧
      traffic.cache.waiters? caller.key = some tickets ∧ ticket ∈ tickets
  owned : ∀ {key tickets ticket}, traffic.cache.waiters? key = some tickets → ticket ∈ tickets →
    ∃ caller ∈ traffic.callers, caller.ticket? = some ticket ∧ caller.key == key ∧
      caller.notices = []
  distinct : ∀ {key tickets}, traffic.cache.waiters? key = some tickets → tickets.Nodup
  numbered : ∀ {caller ticket}, caller ∈ traffic.callers → caller.ticket? = some ticket →
    ticket.number < traffic.cache.nextTicket
  personal : ∀ {id other : Nat} {caller rival : Caller K V E} {ticket : Ticket},
    traffic.callers[id]? = some caller → traffic.callers[other]? = some rival →
    caller.ticket? = some ticket → rival.ticket? = some ticket → id = other
  heard : ∀ {caller}, caller ∈ traffic.callers → caller.Heard

section Leading

variable {traffic : Traffic K V E} {cache : Coalescing K (Loaded V)}

theorem Led.tick (led : traffic.Led) (same : cache.waiters? = traffic.cache.waiters?) :
    (traffic.tick cache).Led where
  flying_iff key := by
    rw [Traffic.tick, same]
    exact led.flying_iff key
  alone := led.alone

/-- A move that neither takes nor ends a lead. -/
theorem Led.turn (led : traffic.Led)
    (same : ∀ key, (cache.waiters? key).isSome = (traffic.cache.waiters? key).isSome)
    {id : Nat} {stage : Stage K V E} {notices} (aside : stage.lead? = none)
    (unled : ∀ key, ¬ traffic.Leads id key) : (traffic.move id stage cache notices).Led where
  flying_iff key := by
    change (cache.waiters? key).isSome ↔ _
    rw [same, led.flying_iff]
    refine exists_congr fun other => ?_
    rw [leads_move aside]
    exact ⟨fun leads => ⟨fun equal => unled key (equal ▸ leads), leads⟩, And.right⟩
  alone leads leads' := led.alone ((leads_move aside).mp leads).2 ((leads_move aside).mp leads').2

theorem Led.enter (led : traffic.Led)
    (same : ∀ key, (cache.waiters? key).isSome = (traffic.cache.waiters? key).isSome)
    {newcomer : Caller K V E} {notices} (aside : ∀ key, newcomer.leads key = false) :
    (traffic.enter newcomer cache notices).Led where
  flying_iff key := by
    change (cache.waiters? key).isSome ↔ _
    rw [same, led.flying_iff]
    simp [leads_enter, aside]
  alone leads leads' := by
    simp only [leads_enter, aside, Bool.false_eq_true, and_false, or_false] at leads leads'
    exact led.alone leads leads'

section Equality

variable [EquivBEq K]

theorem Led.enter_leading (led : traffic.Led) {key : K}
    (unled : traffic.cache.waiters? key = none)
    (opened : ∀ other, cache.waiters? other =
      if key == other then some [] else traffic.cache.waiters? other)
    {newcomer : Caller K V E} {notices} (leads_iff : ∀ other, newcomer.leads other = (key == other)) :
    (traffic.enter newcomer cache notices).Led where
  flying_iff other := by
    change (cache.waiters? other).isSome ↔ _
    simp only [leads_enter, leads_iff, opened]
    by_cases equal : key == other
    · simp [equal]
    · simp [equal, led.flying_iff]
  alone {id rival other} leads leads' := by
    simp only [leads_enter, leads_iff] at leads leads'
    have vacant : key == other → ∀ id, ¬ traffic.Leads id other := by
      intro equal id leads
      have flying := (led.flying_iff other).mpr ⟨id, leads⟩
      rw [← Coalescing.waiters?_congr equal, unled] at flying
      cases flying
    rcases leads with old | ⟨last, equal⟩
    · rcases leads' with old' | ⟨-, equal⟩
      · exact led.alone old old'
      · exact absurd old (vacant equal id)
    · rcases leads' with old | ⟨last', -⟩
      · exact absurd old (vacant equal rival)
      · rw [last, last']

theorem Led.close (led : traffic.Led) {id : Nat} {key : K} (leads : traffic.Leads id key)
    (closed : ∀ other, cache.waiters? other =
      if key == other then none else traffic.cache.waiters? other)
    {stage : Stage K V E} {notices} (aside : stage.lead? = none) :
    (traffic.move id stage cache notices).Led where
  flying_iff other := by
    change (cache.waiters? other).isSome ↔ _
    simp only [leads_move aside, closed]
    obtain ⟨caller, found, leading⟩ := leads
    by_cases equal : key == other
    · have leads_other : traffic.Leads id other :=
        ⟨caller, found, (Caller.leads_eq leading other).trans equal⟩
      simp only [equal, if_true, Option.isSome_none, Bool.false_eq_true, false_iff]
      rintro ⟨rival, apart, leads'⟩
      exact apart (led.alone leads_other leads')
    · simp only [equal, if_false, led.flying_iff, Bool.false_eq_true]
      refine exists_congr fun rival => ⟨fun leads' => ⟨?_, leads'⟩, And.right⟩
      rintro rfl
      obtain ⟨caller', found', leading'⟩ := leads'
      cases found.symm.trans found'
      exact equal ((Caller.leads_eq leading other).symm.trans leading')
  alone leads leads' := led.alone ((leads_move aside).mp leads).2 ((leads_move aside).mp leads').2

end Equality

end Leading

section Waiting

variable {traffic : Traffic K V E} {cache : Coalescing K (Loaded V)}

theorem Ticketed.tick (ticketed : traffic.Ticketed)
    (same : cache.waiters? = traffic.cache.waiters?)
    (next : cache.nextTicket = traffic.cache.nextTicket) : (traffic.tick cache).Ticketed where
  registered member waits := by
    rw [Traffic.tick, same]
    exact ticketed.registered member waits
  owned flight member := ticketed.owned (same ▸ flight) member
  distinct flight := ticketed.distinct (same ▸ flight)
  numbered member holds := by
    rw [Traffic.tick, next]
    exact ticketed.numbered member holds
  personal := ticketed.personal
  heard := ticketed.heard

private theorem personal_enter (ticketed : traffic.Ticketed) {newcomer : Caller K V E}
    (unheld : ∀ {caller ticket}, caller ∈ traffic.callers → caller.ticket? = some ticket →
      newcomer.ticket? ≠ some ticket) {id other : Nat} {caller rival : Caller K V E} {ticket : Ticket}
    (found : (traffic.enter newcomer cache []).callers[id]? = some caller)
    (found' : (traffic.enter newcomer cache []).callers[other]? = some rival)
    (holds : caller.ticket? = some ticket) (holds' : rival.ticket? = some ticket) : id = other := by
  simp only [callers_enter, Caller.hearAll_nil, Option.map_id'] at found found'
  split at found
  · cases found
    split at found'
    · rename_i last last'
      exact last.trans last'.symm
    · exact absurd holds (unheld (List.mem_of_getElem? found') holds')
  · split at found'
    · cases found'
      exact absurd holds' (unheld (List.mem_of_getElem? found) holds)
    · exact ticketed.personal found found' holds holds'

/-- A newcomer that does not wait, in a cache where at most a flight without waiting callers is
new. -/
theorem Ticketed.enter (ticketed : traffic.Ticketed)
    (kept : ∀ {key tickets}, traffic.cache.waiters? key = some tickets →
      cache.waiters? key = some tickets)
    (new : ∀ {key tickets}, cache.waiters? key = some tickets →
      tickets = [] ∨ traffic.cache.waiters? key = some tickets)
    (next : cache.nextTicket = traffic.cache.nextTicket) {newcomer : Caller K V E}
    (awake : newcomer.stage ≠ .waiting) (free : newcomer.ticket? = none)
    (heard : newcomer.Heard) : (traffic.enter newcomer cache []).Ticketed where
  registered member waits := by
    rcases mem_enter.mp member with old | rfl
    · obtain ⟨ticket, tickets, holds, flight, listed⟩ := ticketed.registered old waits
      exact ⟨ticket, tickets, holds, kept flight, listed⟩
    · exact absurd waits awake
  owned flight listed := by
    rcases new flight with rfl | old
    · cases listed
    · obtain ⟨caller, member, owns⟩ := ticketed.owned old listed
      exact ⟨caller, mem_enter.mpr (.inl member), owns⟩
  distinct flight := by
    rcases new flight with rfl | old
    · exact List.nodup_nil
    · exact ticketed.distinct old
  numbered member holds := by
    change _ < cache.nextTicket
    rw [next]
    rcases mem_enter.mp member with old | rfl
    · exact ticketed.numbered old holds
    · rw [free] at holds
      cases holds
  personal := personal_enter ticketed fun _ _ => by simp [free]
  heard member := by
    rcases mem_enter.mp member with old | rfl
    · exact ticketed.heard old
    · exact heard

section Equality

variable [EquivBEq K]

theorem Ticketed.enter_waiting (ticketed : traffic.Ticketed) {key : K} {tickets : List Ticket}
    (flight : traffic.cache.waiters? key = some tickets)
    (joined : ∀ other, cache.waiters? other =
      if key == other then
        (traffic.cache.waiters? other).map (· ++ [⟨traffic.cache.nextTicket⟩])
      else traffic.cache.waiters? other)
    (next : cache.nextTicket = traffic.cache.nextTicket + 1) {newcomer : Caller K V E}
    (own : newcomer.key = key) (waits : newcomer.stage = .waiting)
    (holds : newcomer.ticket? = some ⟨traffic.cache.nextTicket⟩)
    (untold : newcomer.notices = []) : (traffic.enter newcomer cache []).Ticketed where
  registered member waits := by
    rcases mem_enter.mp member with old | rfl
    · obtain ⟨ticket, known, holds, flight', listed⟩ := ticketed.registered old waits
      rw [Traffic.enter, joined, flight']
      split
      · exact ⟨ticket, _, holds, rfl, List.mem_append_left _ listed⟩
      · exact ⟨ticket, _, holds, rfl, listed⟩
    · refine ⟨_, tickets ++ [_], holds, ?_, List.mem_append_right _ List.mem_cons_self⟩
      rw [Traffic.enter, joined, own, if_pos BEq.rfl, flight]
      rfl
  owned {other tickets' ticket} flight' listed := by
    rw [Traffic.enter, joined] at flight'
    split at flight'
    · rename_i equal
      obtain ⟨known, old, rfl⟩ := Option.map_eq_some_iff.mp flight'
      rcases List.mem_append.mp listed with listed | last
      · obtain ⟨caller, member, owns⟩ := ticketed.owned old listed
        exact ⟨caller, mem_enter.mpr (.inl member), owns⟩
      · cases List.mem_singleton.mp last
        exact ⟨newcomer, mem_enter.mpr (.inr rfl), holds, own ▸ equal, untold⟩
    · obtain ⟨caller, member, owns⟩ := ticketed.owned flight' listed
      exact ⟨caller, mem_enter.mpr (.inl member), owns⟩
  distinct {other tickets'} flight' := by
    rw [Traffic.enter, joined] at flight'
    split at flight'
    · obtain ⟨known, old, rfl⟩ := Option.map_eq_some_iff.mp flight'
      refine List.nodup_append.mpr ⟨ticketed.distinct old, List.nodup_singleton _, ?_⟩
      rintro ticket listed _ last rfl
      cases List.mem_singleton.mp last
      obtain ⟨caller, member, holds', -⟩ := ticketed.owned old listed
      exact Nat.lt_irrefl _ (ticketed.numbered member holds')
    · exact ticketed.distinct flight'
  numbered member holds' := by
    change _ < cache.nextTicket
    rw [next]
    rcases mem_enter.mp member with old | rfl
    · exact Nat.lt_succ_of_lt (ticketed.numbered old holds')
    · cases holds.symm.trans holds'
      exact Nat.lt_succ_self _
  personal := by
    refine personal_enter ticketed fun member holds' taken => ?_
    cases holds.symm.trans taken
    exact Nat.lt_irrefl _ (ticketed.numbered member holds')
  heard member := by
    rcases mem_enter.mp member with old | rfl
    · exact ticketed.heard old
    · rw [Caller.Heard, waits]
      exact untold

omit [EquivBEq K] in
private theorem personal_move (ticketed : traffic.Ticketed) {moved : Nat} {stage : Stage K V E}
    {notices} {id other : Nat} {caller rival : Caller K V E} {ticket : Ticket}
    (found : (traffic.move moved stage cache notices).callers[id]? = some caller)
    (found' : (traffic.move moved stage cache notices).callers[other]? = some rival)
    (holds : caller.ticket? = some ticket) (holds' : rival.ticket? = some ticket) : id = other := by
  obtain ⟨before, known, -, same⟩ := before_move found
  obtain ⟨before', known', -, same'⟩ := before_move found'
  exact ticketed.personal known known' (same ▸ holds) (same' ▸ holds')

omit [EquivBEq K] in
theorem Ticketed.turn (ticketed : traffic.Ticketed) {id : Nat} {stage : Stage K V E}
    (awake : stage ≠ .waiting)
    (heard : ∀ caller, traffic.callers[id]? = some caller → ({ caller with stage }).Heard) :
    (traffic.move id stage traffic.cache []).Ticketed where
  registered member waits := by
    obtain ⟨place, other, known, rfl⟩ := mem_move member
    split at waits
    · exact absurd waits awake
    · rw [if_neg ‹_›]
      exact ticketed.registered (List.mem_of_getElem? known) waits
  owned flight listed := by
    obtain ⟨caller, member, holds, equal, untold⟩ := ticketed.owned flight listed
    obtain ⟨place, known⟩ := List.mem_iff_getElem?.mp member
    refine ⟨_, mem_move_of known, ?_⟩
    split
    · exact ⟨holds, equal, untold⟩
    · exact ⟨holds, equal, untold⟩
  distinct := ticketed.distinct
  numbered member holds := by
    obtain ⟨place, other, known, rfl⟩ := mem_move member
    refine ticketed.numbered (List.mem_of_getElem? known) ?_
    split at holds
    · exact holds
    · exact holds
  personal := personal_move ticketed
  heard member := by
    obtain ⟨place, other, known, rfl⟩ := mem_move member
    split
    · rename_i same
      exact heard other (same ▸ known)
    · exact ticketed.heard (List.mem_of_getElem? known)

omit [EquivBEq K] in
theorem Ticketed.of_listed (ticketed : traffic.Ticketed) {caller : Caller K V E} {ticket : Ticket}
    (member : caller ∈ traffic.callers) (holds : caller.ticket? = some ticket) {key : K}
    {tickets : List Ticket} (flight : traffic.cache.waiters? key = some tickets)
    (listed : ticket ∈ tickets) : caller.key == key ∧ caller.notices = [] := by
  obtain ⟨owner, owning, holds', equal, untold⟩ := ticketed.owned flight listed
  obtain ⟨id, found⟩ := List.mem_iff_getElem?.mp member
  obtain ⟨other, found'⟩ := List.mem_iff_getElem?.mp owning
  cases ticketed.personal found found' holds holds'
  cases found.symm.trans found'
  exact ⟨equal, untold⟩

/-- A result that is sent to a flight is heard once by those who hold a ticket of it, and by nobody
else. -/
theorem Ticketed.hearAll_cases (ticketed : traffic.Ticketed) (key : K)
    (result : Option (Answer V E)) {caller : Caller K V E} (member : caller ∈ traffic.callers) :
    let tickets := (traffic.cache.waiters? key).getD []
    let heard := caller.hearAll (tickets.map fun ticket => ⟨ticket, result⟩)
    (∃ ticket ∈ tickets, caller.ticket? = some ticket ∧ key == caller.key ∧
      caller.notices = [] ∧ heard = caller.tell result) ∨
    (∀ ticket ∈ tickets, caller.ticket? ≠ some ticket) ∧ heard = caller := by
  intro tickets heard
  by_cases holds : ∃ ticket ∈ tickets, caller.ticket? = some ticket
  · obtain ⟨ticket, listed, holds⟩ := holds
    cases flight : traffic.cache.waiters? key with
    | none => simp [tickets, flight] at listed
    | some known =>
        have tickets_eq : tickets = known := by simp [tickets, flight]
        rw [tickets_eq] at listed
        obtain ⟨equal, untold⟩ := ticketed.of_listed member holds flight listed
        have distinct : tickets.Nodup := tickets_eq ▸ ticketed.distinct flight
        exact .inl ⟨ticket, tickets_eq ▸ listed, holds, BEq.symm equal, untold,
          Caller.hearAll_of_mem distinct holds (tickets_eq ▸ listed)⟩
  · have deaf : ∀ ticket ∈ tickets, caller.ticket? ≠ some ticket :=
      fun ticket listed holds' => holds ⟨ticket, listed, holds'⟩
    refine .inr ⟨deaf, Caller.hearAll_of_deaf fun notice sent => ?_⟩
    obtain ⟨ticket, listed, rfl⟩ := List.mem_map.mp sent
    exact deaf ticket listed

theorem Ticketed.close (ticketed : traffic.Ticketed) {key : K}
    (closed : ∀ other, cache.waiters? other =
      if key == other then none else traffic.cache.waiters? other)
    (next : cache.nextTicket = traffic.cache.nextTicket) {id : Nat} {stage : Stage K V E}
    (awake : stage ≠ .waiting) (untold : ∀ notice, stage ≠ .told notice)
    (result : Option (Answer V E)) :
    (traffic.move id stage cache
      (((traffic.cache.waiters? key).getD []).map fun ticket => ⟨ticket, result⟩)).Ticketed where
  registered member waits := by
    obtain ⟨place, other, known, rfl⟩ := mem_move member
    have old := List.mem_of_getElem? known
    split at waits
    · exact absurd waits awake
    · rw [if_neg ‹_›]
      rcases ticketed.hearAll_cases key result old with
        ⟨ticket, -, -, -, -, heard⟩ | ⟨deaf, heard⟩
      · rw [heard, Caller.tell] at waits
        dsimp only at waits
        split at waits
        · cases waits
        · exact absurd waits ‹_›
      · rw [heard] at waits ⊢
        obtain ⟨ticket, tickets, holds, flight, listed⟩ := ticketed.registered old waits
        refine ⟨ticket, tickets, holds, ?_, listed⟩
        -- A flight for an equal key would have reached this caller.
        have apart : ¬ key == other.key := by
          intro equal
          refine deaf ticket ?_ holds
          rw [Coalescing.waiters?_congr equal, flight]
          exact listed
        rw [Traffic.move, closed, if_neg apart]
        exact flight
  owned {other tickets ticket} flight listed := by
    rw [Traffic.move, closed] at flight
    split at flight
    · cases flight
    · rename_i apart
      obtain ⟨caller, member, holds, equal, unheard⟩ := ticketed.owned flight listed
      obtain ⟨place, known⟩ := List.mem_iff_getElem?.mp member
      refine ⟨_, mem_move_of known, ?_⟩
      rcases ticketed.hearAll_cases key result member with
        ⟨ticket', -, -, equal', -, -⟩ | ⟨-, deaf⟩
      · exact absurd (BEq.trans equal' equal) apart
      · rw [deaf]
        split
        · exact ⟨holds, equal, unheard⟩
        · exact ⟨holds, equal, unheard⟩
  distinct {other tickets} flight := by
    rw [Traffic.move, closed] at flight
    split at flight
    · cases flight
    · exact ticketed.distinct flight
  numbered {caller ticket} member holds := by
    obtain ⟨place, found⟩ := List.mem_iff_getElem?.mp member
    obtain ⟨before, known, -, same⟩ := before_move found
    change _ < cache.nextTicket
    rw [next]
    exact ticketed.numbered (List.mem_of_getElem? known) (same ▸ holds)
  personal := personal_move ticketed
  heard member := by
    obtain ⟨place, other, known, rfl⟩ := mem_move member
    have old := List.mem_of_getElem? known
    have before := ticketed.heard old
    rcases ticketed.hearAll_cases key result old with
      ⟨ticket, -, -, -, unheard, heard⟩ | ⟨-, deaf⟩
    · rw [heard]
      have after := before.tell unheard result
      split
      · exact Caller.Heard.of_length_le awake untold after.length_le
      · exact after
    · rw [deaf]
      split
      · exact Caller.Heard.of_length_le awake untold before.length_le
      · exact before

end Equality

end Waiting

structure Orderly (traffic : Traffic K V E) : Prop where
  steady : traffic.Steady fun _ => True
  led : traffic.Led
  ticketed : traffic.Ticketed

namespace Turn

variable {traffic : Traffic K V E} {event : Event K V E} {id : Nat} {before stage : Stage K V E}

theorem aside (turn : Turn traffic event id before stage) :
    before.lead? = none ∧ stage.lead? = none := by
  cases turn <;> exact ⟨rfl, rfl⟩

theorem awake (turn : Turn traffic event id before stage) :
    stage ≠ .waiting ∧ ∀ notice, stage ≠ .told notice := by
  cases turn <;> exact ⟨nofun, nofun⟩

end Turn

variable [EquivBEq K] {traffic after : Traffic K V E} {good : Entry K (Loaded V) → Prop}
  {event : Event K V E}

theorem Moved.led (moved : traffic.Moved good event after) (led : traffic.Led) : after.Led := by
  cases moved with
  | idle | cleared | poisoned => exact led.tick rfl
  | entered begins begun =>
      cases begun with
      | hit =>
          refine led.enter ?_ ?_
          · exact fun _ => rfl
          · exact fun _ => rfl
      | bypassed =>
          refine led.enter ?_ ?_
          · exact fun _ => rfl
          · exact fun _ => rfl
      | joined =>
          refine led.enter (fun other => ?_) ?_
          · refine (congrArg Option.isSome (Coalescing.waiters?_enlist _ other)).trans ?_
            split
            · exact Option.isSome_map
            · rfl
          · exact fun _ => rfl
      | opened working sound unled =>
          refine led.enter_leading unled ?_ ?_
          · exact Coalescing.waiters?_launch unled
          · exact fun _ => rfl
  | @turned id caller stage found turn =>
      refine led.turn (fun _ => rfl) turn.aside.2 fun key leads => ?_
      obtain ⟨caller', found', leading⟩ := leads
      cases found.symm.trans found'
      cases (Caller.not_leads turn.aside.1 key).symm.trans leading
  | @ended id caller generation load result? stored ends found leading stores =>
      have leads : traffic.Leads id caller.key :=
        ⟨caller, found, (Caller.leads_of_leading leading caller.key).trans BEq.rfl⟩
      refine led.close leads (fun other => ?_) (by cases result? <;> rfl)
      rw [Coalescing.waiters?_takeWaiters, stores.waiters?_eq]

theorem Moved.ticketed (moved : traffic.Moved good event after) (ticketed : traffic.Ticketed) :
    after.Ticketed := by
  cases moved with
  | idle | cleared | poisoned => exact ticketed.tick rfl rfl
  | @entered key now cache begin begins begun =>
      cases begun with
      | hit =>
          refine ticketed.enter ?_ ?_ ?_ ?_ ?_ ?_
          · exact id
          · exact .inr
          · rfl
          · exact nofun
          · rfl
          · exact Nat.zero_le 1
      | bypassed =>
          refine ticketed.enter ?_ ?_ ?_ ?_ ?_ ?_
          · exact id
          · exact .inr
          · rfl
          · exact nofun
          · rfl
          · exact Nat.zero_le 1
      | joined working sound flying =>
          obtain ⟨tickets, flight⟩ := Option.isSome_iff_exists.mp flying
          refine ticketed.enter_waiting flight ?_ ?_ ?_ ?_ ?_ ?_
          · exact Coalescing.waiters?_enlist _
          · rfl
          · rfl
          · rfl
          · rfl
          · rfl
      | opened working sound unled =>
          refine ticketed.enter ?_ ?_ ?_ ?_ ?_ ?_
          · exact fun flight => Coalescing.waiters?_launch_of_some unled flight
          · intro other tickets flight
            have before := (Coalescing.waiters?_launch unled other).symm.trans flight
            split at before
            · exact .inl (Option.some.inj before).symm
            · exact .inr before
          · rfl
          · exact nofun
          · rfl
          · exact Nat.zero_le 1
  | turned found turn =>
      refine ticketed.turn turn.awake.1 fun caller found' => ?_
      exact Caller.Heard.of_length_le turn.awake.1 turn.awake.2
        (ticketed.heard (List.mem_of_getElem? found')).length_le
  | @ended id caller generation load result? stored ends found leading stores =>
      change (Traffic.move traffic id _ _
        (((stored.waiters? caller.key).getD []).map fun ticket => ⟨ticket, _⟩)).Ticketed
      rw [stores.waiters?_eq]
      refine ticketed.close (fun other => ?_) ?_ ?_ ?_ _
      · rw [Coalescing.waiters?_takeWaiters, stores.waiters?_eq]
      · exact stores.nextTicket_eq
      · cases result? <;> exact nofun
      · cases result? <;> exact nofun

variable [LawfulHashable K]

theorem Orderly.step (orderly : traffic.Orderly) (event : Event K V E) :
    (traffic.step event).Orderly where
  steady := (orderly.steady.moved event).steady orderly.steady fun _ _ _ => trivial
  led := (orderly.steady.moved event).led orderly.led
  ticketed := (orderly.steady.moved event).ticketed orderly.ticketed

omit [EquivBEq K] [LawfulHashable K] in
theorem Orderly.start (name : String) (capacity : Nat) (ttl : Span) :
    (start name capacity ttl : Traffic K V E).Orderly where
  steady := .start name capacity ttl _
  led := ⟨fun key => by simp [Leads, Traffic.start, Coalescing.new, Coalescing.waiters?],
    fun leads => by simp [Leads, Traffic.start] at leads⟩
  ticketed := by
    constructor <;> simp [Traffic.start, Coalescing.new, Coalescing.waiters?]

theorem Orderly.run (orderly : traffic.Orderly) (events : List (Event K V E)) :
    (traffic.run events).Orderly := by
  induction events generalizing traffic with
  | nil => exact orderly
  | cons event rest ih => exact ih (orderly.step event)

/-! What this means for those who share a cache. -/

/-- How the end of a flight reaches all who wait for it, and nobody else. -/
structure Landed (traffic after : Traffic K V E) (key : K) (notice : Option (Answer V E)) :
    Prop where
  gone : after.cache.waiters? key = none
  others_stay : ∀ other, (key == other) = false →
    after.cache.waiters? other = traffic.cache.waiters? other
  waiters_told : ∀ (id : Nat) (waiter : Caller K V E), traffic.callers[id]? = some waiter →
    waiter.stage = .waiting → key == waiter.key →
    after.callers[id]? = some { waiter with notices := [notice], stage := .told notice }
  strangers_wait : ∀ (id : Nat) (waiter : Caller K V E), traffic.callers[id]? = some waiter →
    waiter.stage = .waiting → (key == waiter.key) = false → after.callers[id]? = some waiter

theorem Orderly.landed (orderly : traffic.Orderly) {id : Nat} {leader : Caller K V E}
    {lead : Coalescing.Lead K} {key : K} {generation : Nat} {load : Load}
    (found : traffic.callers[id]? = some leader)
    (leading : leader.stage = .loading (.leading lead key generation) load)
    {result? : Option (Except E V)} (ends : event.Ends id result?) :
    (traffic.step event).callers[id]?.map Caller.stage = some (load.outcome result?) ∧
      traffic.Landed (traffic.step event) leader.key (result?.map load.mark) := by
  obtain ⟨steady, led, ticketed⟩ := orderly
  obtain ⟨stored, stores, step_eq⟩ := steady.step_ends found leading ends
  have same := stores.waiters?_eq
  have closed (other : K) : (traffic.step event).cache.waiters? other =
      if leader.key == other then none else traffic.cache.waiters? other := by
    rw [step_eq, Traffic.move, Coalescing.waiters?_takeWaiters, same]
  have callers (place : Nat) : (traffic.step event).callers[place]? =
      traffic.callers[place]?.map fun caller =>
        let heard := caller.hearAll <| ((traffic.cache.waiters? leader.key).getD []).map
          fun ticket => ⟨ticket, result?.map load.mark⟩
        if id = place then { heard with stage := load.outcome result? } else heard := by
    rw [step_eq, callers_move, ← same]
    rfl
  have awake {place : Nat} {waiter : Caller K V E} (known : traffic.callers[place]? = some waiter)
      (waits : waiter.stage = .waiting) : id ≠ place := by
    rintro rfl
    cases found.symm.trans known
    cases leading.symm.trans waits
  refine ⟨?_, ?_, ?_, ?_, ?_⟩
  · rw [callers, found]
    simp
  · rw [closed, if_pos BEq.rfl]
  · intro other apart
    rw [closed, apart]
    rfl
  · intro place waiter known waits equal
    obtain ⟨ticket, tickets, holds, flight, listed⟩ :=
      ticketed.registered (List.mem_of_getElem? known) waits
    rw [callers, known, Option.map_some, if_neg (awake known waits)]
    rcases ticketed.hearAll_cases leader.key (result?.map load.mark) (List.mem_of_getElem? known)
      with ⟨-, -, -, -, unheard, heard⟩ | ⟨deaf, -⟩
    · rw [heard, Caller.tell, unheard, waits]
      rfl
    · refine absurd holds (deaf ticket ?_)
      rw [Coalescing.waiters?_congr equal, flight]
      exact listed
  · intro place waiter known waits apart
    rw [callers, known, Option.map_some, if_neg (awake known waits)]
    rcases ticketed.hearAll_cases leader.key (result?.map load.mark) (List.mem_of_getElem? known)
      with ⟨-, -, -, equal, -, -⟩ | ⟨-, deaf⟩
    · rw [apart] at equal
      cases equal
    · rw [deaf]

omit [LawfulHashable K] in
/-- A flight ends with its own leader only; until then callers can only join it. -/
theorem Moved.flight_kept (moved : traffic.Moved good event after) {key : K}
    {tickets : List Ticket} (flight : traffic.cache.waiters? key = some tickets) :
    (∃ more, after.cache.waiters? key = some (tickets ++ more)) ∨
      ∃ id result?, traffic.Leads id key ∧ event.Ends id result? := by
  have kept {cache : Coalescing K (Loaded V)} (same : cache.waiters? = traffic.cache.waiters?) :
      ∃ more, cache.waiters? key = some (tickets ++ more) :=
    ⟨[], by rw [same, flight, List.append_nil]⟩
  cases moved with
  | idle | cleared | poisoned | turned => exact .inl (kept rfl)
  | @entered opened now cache begin begins begun =>
      cases begun with
      | hit | bypassed => exact .inl (kept rfl)
      | joined =>
          refine .inl ?_
          refine (exists_congr fun more => Eq.congr_left (Coalescing.waiters?_enlist _ key)).mpr ?_
          rw [flight]
          split
          · exact ⟨_, rfl⟩
          · exact ⟨[], by rw [List.append_nil]⟩
      | opened working sound unled =>
          refine .inl ⟨[], ?_⟩
          rw [List.append_nil]
          exact Coalescing.waiters?_launch_of_some unled flight
  | @ended id caller generation load result? stored ends found leading stores =>
      by_cases equal : caller.key == key
      · have leads := (Caller.leads_of_leading leading key).trans equal
        exact .inr ⟨id, result?, ⟨caller, found, leads⟩, ends⟩
      · refine .inl ⟨[], ?_⟩
        change (stored.takeWaiters caller.key).1.waiters? key = _
        rw [Coalescing.waiters?_takeWaiters, if_neg equal, stores.waiters?_eq, flight,
          List.append_nil]

omit [EquivBEq K] [LawfulHashable K] in
theorem callers_resume {id : Nat} {caller : Caller K V E} {notice : Option (Answer V E)}
    (found : traffic.callers[id]? = some caller) (told : caller.stage = .told notice) :
    (traffic.step (.resume id)).callers[id]? =
      some { caller with stage := traffic.reaction id notice } := by
  simp only [step, found, Option.map_some, told]
  rw [callers_move, found, Option.map_some, if_pos rfl]
  rfl

/-- Nobody is stranded, and no flight has two leaders. Whatever the callers do and whoever is
stopped, a key has a flight exactly when one caller leads it, and every waiting caller is registered
once with the flight for its key. The end of a leader ends its flight and no other one, and tells
each of those who wait once: its result, or that there is none, and then they run their own
loaders. -/
theorem run_flights (name : String) (capacity : Nat) (ttl : Span) (events : List (Event K V E)) :
    let traffic := (start name capacity ttl : Traffic K V E).run events
    (∀ key, (traffic.cache.waiters? key).isSome ↔ ∃! id, traffic.Leads id key) ∧
    (∀ caller ∈ traffic.callers, caller.stage = .waiting → ∃ ticket tickets,
      caller.ticket? = some ticket ∧ traffic.cache.waiters? caller.key = some tickets ∧
        tickets.count ticket = 1 ∧
        ∀ other others, traffic.cache.waiters? other = some others → ticket ∈ others →
          caller.key == other) ∧
    (∀ caller ∈ traffic.callers, caller.Heard) ∧
    (∀ (id : Nat) leader lead key generation load event result?,
      traffic.callers[id]? = some leader →
      leader.stage = .loading (.leading lead key generation) load → event.Ends id result? →
      (traffic.step event).callers[id]?.map Caller.stage = some (load.outcome result?) ∧
        traffic.Landed (traffic.step event) leader.key (result?.map load.mark)) ∧
    (∀ (id : Nat) caller notice, traffic.callers[id]? = some caller →
      caller.stage = .told notice →
      (traffic.step (.resume id)).callers[id]? =
        some { caller with stage := traffic.reaction id notice }) ∧
    (∀ event key tickets, traffic.cache.waiters? key = some tickets →
      (∃ more, (traffic.step event).cache.waiters? key = some (tickets ++ more)) ∨
        ∃ id result?, traffic.Leads id key ∧ event.Ends id result?) ∧
    ∀ (lead : Coalescing.Lead K) (result : Answer V E) (later : Coalescing K (Loaded V)),
      (lead.complete traffic.cache result).1.drop (E := Loaded E) later = (later, []) := by
  intro traffic
  have orderly : traffic.Orderly := (Orderly.start name capacity ttl).run events
  refine ⟨fun key => ?_, fun caller member waits => ?_, fun caller => orderly.ticketed.heard,
    fun id leader lead key generation load event result? found leading ends =>
      orderly.landed found leading ends,
    fun id caller notice found told => callers_resume found told,
    fun event key tickets flight => (orderly.steady.moved event).flight_kept flight,
    fun lead result later => lead.drop_complete traffic.cache later result⟩
  · rw [orderly.led.flying_iff]
    constructor
    · rintro ⟨id, leads⟩
      exact ⟨id, leads, fun other leads' => orderly.led.alone leads' leads⟩
    · exact ExistsUnique.exists
  · obtain ⟨ticket, tickets, holds, flight, listed⟩ := orderly.ticketed.registered member waits
    exact ⟨ticket, tickets, holds, flight,
      List.count_eq_one_of_mem (orderly.ticketed.distinct flight) listed,
      fun other others flight' listed' => (orderly.ticketed.of_listed member holds flight' listed').1⟩

theorem run_flights_stopped_leader :
    let traffic := (start "page" 0 .zero : Traffic Nat Nat Nat).run [.begin 7 ⟨0⟩, .begin 7 ⟨1⟩]
    traffic.callers.map Caller.stage = [.loading (.leading ⟨some 7⟩ 7 0) ⟨0, 0⟩, .waiting] ∧
      traffic.Landed (traffic.step (.stop 0)) 7 none := by
  intro traffic
  have callers : traffic.callers =
      [{ key := 7, began := 0, stage := .loading (.leading ⟨some 7⟩ 7 0) ⟨0, 0⟩ },
        { key := 7, began := 1, leader? := some 0, ticket? := some ⟨0⟩, stage := .waiting }] := by
    change (List.foldl step _ _).callers = _
    rw [List.foldl_cons, step_begin_new, List.foldl_cons, step,
      Coalescing.begin_of_joined rfl (Lru.get_of_empty rfl 7 ⟨1⟩) rfl]
    rfl
  obtain ⟨-, -, -, lands, -⟩ :=
    run_flights (E := Nat) (V := Nat) "page" 0 .zero [.begin 7 ⟨0⟩, .begin 7 ⟨1⟩]
  have leading : traffic.callers[0]? = some
      { key := 7, began := 0, stage := .loading (.leading ⟨some 7⟩ 7 0) ⟨0, 0⟩ } := by
    rw [callers]
    rfl
  exact ⟨by rw [callers]; rfl, (lands 0 _ _ _ _ _ _ none leading rfl (.stop 0)).2⟩

end Traffic

end Roster.Cache
