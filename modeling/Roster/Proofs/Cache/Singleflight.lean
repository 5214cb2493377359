import Roster.Proofs.Cache.Provenance

namespace Roster.Cache

/-! One load for all who ask for a key at a time. As long as no leader is stopped and the entries
stay usable, nobody but the leader of a flight runs a loader, and whoever has joined it returns what
the leader returns. -/

variable {K V E : Type}

/-- How one who has joined a flight stands while its leader stands somewhere. -/
def Stage.Follows : Stage K V E → Stage K V E → Prop
  | .waiting, leader => ∃ call load, leader = .loading call load
  | .told notice, leader => ∃ answer, notice = some answer ∧ leader = .returned answer
  | .returned answer, leader => leader = .returned answer
  | .stopped, _ => True
  | .loading .., _ => False

namespace Traffic

variable [BEq K] [Hashable K]

/-- An event that neither stops a leader nor leaves the entries unusable. -/
def Calm (traffic : Traffic K V E) : Event K V E → Prop
  | .stop id => ∀ key, ¬ traffic.Leads id key
  | .poison => False
  | _ => True

def CalmRun (traffic : Traffic K V E) : List (Event K V E) → Prop
  | [] => True
  | event :: rest => traffic.Calm event ∧ (traffic.step event).CalmRun rest

/-- No entry has this key. -/
def Absent (traffic : Traffic K V E) (key : K) : Prop :=
  traffic.cache.entries.Sound fun entry => (entry.key == key) = false

variable {traffic after : Traffic K V E} {event : Event K V E}
  {good : Entry K (Loaded V) → Prop}

theorem calmRun_append {before rest : List (Event K V E)}
    (calm : traffic.CalmRun (before ++ rest)) :
    traffic.CalmRun before ∧ (traffic.run before).CalmRun rest := by
  induction before generalizing traffic with
  | nil => exact ⟨trivial, calm⟩
  | cons event before ih =>
      obtain ⟨first, later⟩ := calm
      exact ⟨⟨first, (ih later).1⟩, (ih later).2⟩

theorem Calm.result (calm : traffic.Calm event) {id : Nat} {key : K}
    (leads : traffic.Leads id key) {result? : Option (Except E V)}
    (ends : event.Ends id result?) : ∃ result, result? = some result := by
  cases ends with
  | finish _ result now => exact ⟨result, rfl⟩
  | stop => exact absurd leads (calm key)

/-! What a step leaves of callers, leads and entries. -/

theorem Moved.length_le (moved : traffic.Moved good event after) :
    traffic.callers.length ≤ after.callers.length := by
  cases moved with
  | idle | cleared | poisoned => exact Nat.le_refl _
  | entered => simp [enter]
  | turned | ended => simp [move]

theorem Moved.poisoned_eq (moved : traffic.Moved good event after)
    (usable : traffic.cache.poisoned = false) (calm : traffic.Calm event) :
    after.cache.poisoned = false := by
  cases moved with
  | idle | turned => exact usable
  | cleared => rfl
  | poisoned poisons =>
      subst poisons
      exact calm.elim
  | entered _ begun =>
      cases begun with
      | hit | joined | opened => exact usable
      | bypassed => rfl
  | ended _ _ _ stores =>
      cases stores with
      | kept | skipped => exact usable
      | reset => rfl

theorem Went.returned {id : Nat} {caller : Caller K V E} {stage : Stage K V E}
    {answer : Answer V E} (went : Went traffic event id caller stage)
    (returned : caller.stage = .returned answer) : stage = .returned answer := by
  cases went with
  | stayed => exact returned
  | turned turn =>
      rw [returned] at turn
      cases turn
  | ended loading => cases returned.symm.trans loading
  | woken waits => cases returned.symm.trans waits

section Equality

variable [EquivBEq K]

theorem Moved.caller_after (moved : traffic.Moved good event after) (ticketed : traffic.Ticketed)
    {id : Nat} {before : Caller K V E} (known : traffic.callers[id]? = some before) :
    ∃ caller, after.callers[id]? = some caller ∧ caller.key = before.key ∧
      Went traffic event id before caller.stage := by
  have bounded := (List.getElem?_eq_some_iff.mp known).1
  have found := List.getElem?_eq_getElem (Nat.lt_of_lt_of_le bounded moved.length_le)
  rcases moved.caller_cases ticketed found with
    ⟨other, known', sameKey, -, -, went⟩ | ⟨last, -⟩
  · cases known.symm.trans known'
    exact ⟨_, found, sameKey, went⟩
  · exact absurd last (Nat.ne_of_lt bounded)

/-- Whoever is told something was waiting for a leader whose loader has just ended. -/
theorem Moved.told_by (moved : traffic.Moved good event after) (ticketed : traffic.Ticketed)
    {id : Nat} {before caller : Caller K V E} {notice : Option (Answer V E)}
    (known : traffic.callers[id]? = some before) (waits : before.stage = .waiting)
    (found : after.callers[id]? = some caller) (told : caller.stage = .told notice) :
    ∃ (place : Nat) (load : Load) (result? : Option (Except E V)),
      event.Ends place result? ∧ traffic.Leads place before.key ∧ notice = result?.map load.mark ∧
      after.callers[place]?.map Caller.stage = some (load.outcome result?) := by
  cases moved with
  | idle | cleared | poisoned =>
      cases known.symm.trans found
      cases waits.symm.trans told
  | entered =>
      have bounded := (List.getElem?_eq_some_iff.mp known).1
      rw [callers_enter, if_neg (Nat.ne_of_lt bounded), known] at found
      cases found
      cases waits.symm.trans told
  | @turned mover moving stage known' turn =>
      rw [callers_move, known] at found
      cases found
      dsimp only at told
      split at told
      · exact absurd told (turn.awake.2 _)
      · cases waits.symm.trans told
  | @ended mover leader generation load result? stored ends known' leading stores =>
      rw [callers_move, known] at found
      cases found
      dsimp only at told
      split at told
      · cases result? <;> cases told
      · rw [show (stored.takeWaiters leader.key).2 = (traffic.cache.waiters? leader.key).getD [] by
          rw [← stores.waiters?_eq]; rfl] at told
        rcases ticketed.hearAll_cases leader.key (result?.map load.mark)
          (List.mem_of_getElem? known) with ⟨-, -, -, equal, -, heard⟩ | ⟨-, deaf⟩
        · rw [heard, Caller.tell, waits] at told
          cases told
          refine ⟨mover, load, result?, ends, ⟨leader, known', ?_⟩, rfl, ?_⟩
          · exact (Caller.leads_of_leading leading before.key).trans equal
          · rw [callers_move, known']
            simp
        · rw [deaf] at told
          cases waits.symm.trans told

variable [LawfulHashable K]

theorem Orderly.not_leads_finished (orderly : traffic.Orderly) {id : Nat} {key : K}
    (leads : traffic.Leads id key) {result : Except E V} {now : Instant} :
    ¬ (traffic.step (.finish id result now)).Leads id key := by
  obtain ⟨leader, found, leading⟩ := leads
  obtain ⟨lead, own, generation, load, loading⟩ := loading_of_leads leading
  obtain ⟨ended, -⟩ := orderly.landed found loading (.finish id result now)
  rintro ⟨after, found', leads'⟩
  rw [found'] at ended
  rw [Caller.not_leads] at leads'
  · cases leads'
  · rw [Option.some.inj ended]
    rfl

/-- A lead after a step was there before, or has just been taken for a key that no entry has. -/
theorem Orderly.leads_cases (orderly : traffic.Orderly) {id : Nat} {key : K}
    (leads : (traffic.step event).Leads id key) :
    traffic.Leads id key ∨
      (∃ opened now, event = .begin opened now ∧ opened == key) ∧
        (traffic.step event).Absent key := by
  have moved := orderly.steady.moved event
  generalize traffic.step event = after at leads moved
  cases moved with
  | idle | cleared | poisoned => exact .inl leads
  | entered begins begun =>
      rcases leads_enter.mp leads with old | ⟨-, new⟩
      · exact .inl old
      · cases begun with
        | opened _ _ _ missed =>
            have equal := (Caller.leads_of_leading rfl key).symm.trans new
            refine .inr ⟨⟨_, _, begins, equal⟩, missed.mono fun entry ⟨_, apart⟩ => ?_⟩
            exact (BEq.congr_right equal).symm.trans apart
        | _ => cases new
  | turned found turn => exact .inl ((leads_move turn.aside.2).mp leads).2
  | @ended _ _ _ _ result? =>
      exact .inl ((leads_move (by cases result? <;> rfl)).mp leads).2

theorem Orderly.absent_step (orderly : traffic.Orderly) {key : K} (absent : traffic.Absent key)
    (others : ∀ id result now, event = .finish id result now → ¬ traffic.Leads id key) :
    (traffic.step event).Absent key := by
  refine (orderly.steady.moved_of absent ?_).entries_sound absent
  intro id caller generation load value now finishes found leading _ _ stored equal
  rw [Bool.eq_false_iff]
  intro same
  refine others id (.ok value) now finishes ⟨caller, found, ?_⟩
  exact (Caller.leads_of_leading leading key).trans (BEq.trans (BEq.symm equal) same)

/-- While a key is being loaded no entry has it. -/
theorem Orderly.absent_of_leads (orderly : traffic.Orderly)
    (absent : ∀ {id key}, traffic.Leads id key → traffic.Absent key) {id : Nat} {key : K}
    (leads : (traffic.step event).Leads id key) : (traffic.step event).Absent key := by
  rcases orderly.leads_cases leads with old | ⟨-, new⟩
  · refine orderly.absent_step (absent old) ?_
    rintro other result now rfl leads'
    cases orderly.led.alone old leads'
    exact orderly.not_leads_finished old leads
  · exact new

end Equality

/-! What holds as long as all is calm. -/

structure Smooth (traffic : Traffic K V E) : Prop where
  usable : traffic.cache.poisoned = false
  leading : ∀ {caller load}, caller ∈ traffic.callers → caller.stage ≠ .loading .direct load
  told : ∀ {caller}, caller ∈ traffic.callers → caller.stage ≠ .told none
  follows : ∀ {caller id}, caller ∈ traffic.callers → caller.leader? = some id →
    ∃ leader, traffic.callers[id]? = some leader ∧ leader.key == caller.key ∧
      caller.stage.Follows leader.stage
  absent : ∀ {id key}, traffic.Leads id key → traffic.Absent key

theorem Smooth.start (name : String) (capacity : Nat) (ttl : Span) :
    (start name capacity ttl : Traffic K V E).Smooth := by
  constructor <;> simp [Traffic.start, Coalescing.new, Leads]

/-- A key that nobody loads and that no entry has. -/
structure Idle (traffic : Traffic K V E) (key : K) : Prop where
  unled : ∀ id, ¬ traffic.Leads id key
  absent : traffic.Absent key

variable [EquivBEq K] [LawfulHashable K]

omit [EquivBEq K] [LawfulHashable K] in
/-- Whoever waits for a leader follows it: the leader still runs its loader. -/
theorem Orderly.follows_of_waiting (orderly : traffic.Orderly) (traced : traffic.Traced)
    {caller : Caller K V E} (member : caller ∈ traffic.callers) (waits : caller.stage = .waiting)
    {id : Nat} (knows : caller.leader? = some id) :
    ∃ leader, traffic.callers[id]? = some leader ∧ leader.key == caller.key ∧
      caller.stage.Follows leader.stage := by
  obtain ⟨id', knows', leader, found, leads⟩ := traced.waiting member waits
  cases knows.symm.trans knows'
  obtain ⟨lead, own, generation, load, loading⟩ := loading_of_leads leads
  refine ⟨leader, found, orderly.key_of_leads found leads, ?_⟩
  rw [waits]
  exact ⟨_, _, loading⟩

theorem Smooth.follows_step (smooth : traffic.Smooth) (orderly : traffic.Orderly)
    (traced : traffic.Traced) (calm : traffic.Calm event) {caller : Caller K V E} {id : Nat}
    (member : caller ∈ (traffic.step event).callers) (knows : caller.leader? = some id) :
    ∃ leader, (traffic.step event).callers[id]? = some leader ∧ leader.key == caller.key ∧
      caller.stage.Follows leader.stage := by
  have moved := orderly.steady.moved event
  have traced' := moved.traced orderly.led orderly.ticketed traced
  by_cases waits : caller.stage = .waiting
  · exact (orderly.step event).follows_of_waiting traced' member waits knows
  obtain ⟨place, found⟩ := List.mem_iff_getElem?.mp member
  rcases moved.caller_cases orderly.ticketed found with
    ⟨before, known, sameKey, -, sameLeader, went⟩ | ⟨-, key, now, cache, begin, -, begun, rfl⟩
  · obtain ⟨leader, knownLeader, equal, follows⟩ :=
      smooth.follows (List.mem_of_getElem? known) (sameLeader ▸ knows)
    obtain ⟨leader', found', keyLeader, wentLeader⟩ :=
      moved.caller_after orderly.ticketed knownLeader
    refine ⟨leader', found', by rw [keyLeader, sameKey]; exact equal, ?_⟩
    generalize stands : caller.stage = stage at went waits
    generalize stood : before.stage = stage' at follows
    cases went with
    | stayed =>
        rw [stood] at waits ⊢
        cases stage' with
        | waiting => exact absurd rfl waits
        | loading => exact follows.elim
        | told notice =>
            obtain ⟨answer, rfl, returned⟩ := follows
            exact ⟨answer, rfl, wentLeader.returned returned⟩
        | returned answer => exact wentLeader.returned follows
        | stopped => trivial
    | turned turn =>
        rw [stood] at turn
        cases turn with
        | loaded | loadStopped => exact follows.elim
        | alone =>
            obtain ⟨answer, none_eq, -⟩ := follows
            cases none_eq
        | answered answer =>
            obtain ⟨_, same, returned⟩ := follows
            cases same
            exact wentLeader.returned returned
        | waitStopped | toldStopped => trivial
    | ended loading =>
        rw [← stood, loading] at follows
        exact follows.elim
    | woken waited =>
        obtain ⟨mover, load, result?, ends, leads, same, ended⟩ :=
          moved.told_by orderly.ticketed known waited found stands
        obtain ⟨leaderId, knows', leads'⟩ := traced.waiting (List.mem_of_getElem? known) waited
        cases (sameLeader ▸ knows).symm.trans knows'
        cases orderly.led.alone leads leads'
        obtain ⟨result, rfl⟩ := calm.result leads ends
        rw [found'] at ended
        exact ⟨_, same, Option.some.inj ended⟩
  · cases begun with
    | joined => exact absurd rfl waits
    | _ => cases knows

theorem Smooth.step (smooth : traffic.Smooth) (orderly : traffic.Orderly)
    (traced : traffic.Traced) (calm : traffic.Calm event) : (traffic.step event).Smooth := by
  have moved := orderly.steady.moved event
  constructor
  case usable => exact moved.poisoned_eq smooth.usable calm
  case absent => exact orderly.absent_of_leads smooth.absent
  case follows => exact smooth.follows_step orderly traced calm
  case leading =>
    intro caller load member loading
    obtain ⟨id, found⟩ := List.mem_iff_getElem?.mp member
    rcases moved.caller_cases orderly.ticketed found with
      ⟨before, known, -, -, -, went⟩ | ⟨-, key, now, cache, begin, -, begun, rfl⟩
    · have old := List.mem_of_getElem? known
      generalize caller.stage = stage at went loading
      cases went with
      | stayed => exact smooth.leading old loading
      | turned turn =>
          generalize stood : before.stage = stage' at turn
          cases turn with
          | alone => exact smooth.told old stood
          | _ => cases loading
      | ended _ result? => cases result? <;> cases loading
      | woken => cases loading
    · cases begun with
      | bypassed poisoned => cases smooth.usable.symm.trans poisoned
      | _ => cases loading
  case told =>
    intro caller member told
    obtain ⟨id, found⟩ := List.mem_iff_getElem?.mp member
    rcases moved.caller_cases orderly.ticketed found with
      ⟨before, known, -, -, -, went⟩ | ⟨-, key, now, cache, begin, -, begun, rfl⟩
    · generalize stands : caller.stage = stage at went told
      cases went with
      | stayed => exact smooth.told (List.mem_of_getElem? known) told
      | turned turn => exact turn.awake.2 _ told
      | ended _ result? => cases result? <;> cases told
      | woken waited =>
          obtain ⟨mover, load, result?, ends, leads, same, -⟩ :=
            moved.told_by orderly.ticketed known waited found (stands.trans told)
          obtain ⟨result, rfl⟩ := calm.result leads ends
          cases same
    · cases begun <;> cases told

theorem Smooth.run (smooth : traffic.Smooth) (orderly : traffic.Orderly) (traced : traffic.Traced)
    {events : List (Event K V E)} (calm : traffic.CalmRun events) :
    (traffic.run events).Smooth := by
  induction events generalizing traffic with
  | nil => exact smooth
  | cons event rest ih =>
      obtain ⟨first, later⟩ := calm
      exact ih (smooth.step orderly traced first) (orderly.step event)
        ((orderly.steady.moved event).traced orderly.led orderly.ticketed traced) later

/-! What an error leaves behind. -/

omit [EquivBEq K] [LawfulHashable K] in
theorem entries_error (traffic : Traffic K V E) (id : Nat) (error : E) (now : Instant) :
    (traffic.step (.finish id (.error error) now)).cache.entries = traffic.cache.entries := by
  rw [step]
  split
  · rename_i call load _
    cases call with
    | leading lead key generation =>
        exact (Coalescing.complete_entries traffic.cache lead (load.mark (.error error))).1
    | _ => rfl
  · rfl

theorem Smooth.idle_of_error (smooth : traffic.Smooth) (orderly : traffic.Orderly) {id : Nat}
    {key : K} (leads : traffic.Leads id key) (error : E) (now : Instant) :
    (traffic.step (.finish id (.error error) now)).Idle key where
  unled other leads' := by
    rcases orderly.leads_cases leads' with old | ⟨⟨_, _, begins, -⟩, -⟩
    · cases orderly.led.alone leads old
      exact orderly.not_leads_finished leads leads'
    · cases begins
  absent := by
    rw [Absent, entries_error]
    exact smooth.absent leads

theorem Orderly.idle_run (orderly : traffic.Orderly) {key : K} (idle : traffic.Idle key)
    {events : List (Event K V E)}
    (others : ∀ other now, .begin other now ∈ events → (other == key) = false) :
    (traffic.run events).Idle key := by
  induction events generalizing traffic with
  | nil => exact idle
  | cons event rest ih =>
      refine ih (orderly.step event) ⟨fun id leads => ?_, ?_⟩ fun other now member =>
        others other now (List.mem_cons_of_mem event member)
      · rcases orderly.leads_cases leads with old | ⟨⟨other, now, rfl, equal⟩, -⟩
        · exact idle.unled id old
        · rw [others other now List.mem_cons_self] at equal
          cases equal
      · exact orderly.absent_step idle.absent fun id _ _ _ => idle.unled id

/-- Whoever asks for such a key leads it, and its loader starts at once. -/
theorem Orderly.begin_idle (orderly : traffic.Orderly) (usable : traffic.cache.poisoned = false)
    {key : K} (idle : traffic.Idle key) (now : Instant) :
    (traffic.step (.begin key now)).callers[traffic.callers.length]?.map Caller.stage =
      some (.loading (.leading ⟨some key⟩ key traffic.cache.generation)
        (traffic.load traffic.callers.length)) := by
  obtain ⟨cache, begin, begins, begun⟩ :=
    Coalescing.begin_begun (E := Loaded E) idle.absent key now
  rw [Traffic.step, begins]
  dsimp only
  rw [callers_enter, if_pos rfl]
  cases begun with
  | hit _ _ absent equal => cases absent.symm.trans equal
  | joined _ _ flying =>
      obtain ⟨id, leads⟩ := (orderly.led.flying_iff key).mp flying
      exact absurd leads (idle.unled id)
  | opened => rfl
  | bypassed poisoned => cases usable.symm.trans poisoned

/-- As long as no leader is stopped and the entries stay usable, no two loaders run for one key, and
whoever has joined a flight runs none: it waits while its leader loads, is told what the leader has
returned, and returns the same. An error is not stored, so that the next call for its key starts a
new loader. -/
theorem run_singleflight (name : String) (capacity : Nat) (ttl : Span)
    (events : List (Event K V E)) (calm : (start name capacity ttl).CalmRun events) :
    let traffic := (start name capacity ttl : Traffic K V E).run events
    (∀ (id other : Nat) caller rival call call' load load', traffic.callers[id]? = some caller →
      traffic.callers[other]? = some rival → caller.stage = .loading call load →
      rival.stage = .loading call' load' → caller.key == rival.key → id = other) ∧
    (∀ caller ∈ traffic.callers, ∀ id, caller.leader? = some id →
      ((start name capacity ttl).run (events.take caller.began)).Leads id caller.key ∧
      ∃ leader, traffic.callers[id]? = some leader ∧ leader.key == caller.key ∧
        caller.stage.Follows leader.stage) ∧
    (∀ (id other : Nat) leader caller call load result now,
      traffic.callers[id]? = some leader → leader.stage = .loading call load →
      traffic.callers[other]? = some caller → caller.leader? = some id →
      caller.stage = .waiting →
      let landed := traffic.step (.finish id result now)
      landed.callers[id]?.map Caller.stage = some (.returned (load.mark result)) ∧
      landed.callers[other]?.map Caller.stage = some (.told (some (load.mark result))) ∧
      (landed.step (.resume other)).callers[other]?.map Caller.stage =
        some (.returned (load.mark result))) ∧
    ∀ before after id error now key asked,
      events = before ++ .finish id (.error error) now :: after →
      let failing := (start name capacity ttl).run before
      failing.Leads id key →
      (∀ other time, .begin other time ∈ after → (other == key) = false) →
      (failing.step (.finish id (.error error) now)).cache.entries = failing.cache.entries ∧
      (traffic.step (.begin key asked)).callers[traffic.callers.length]?.map Caller.stage =
        some (.loading (.leading ⟨some key⟩ key traffic.cache.generation)
          (traffic.load traffic.callers.length)) := by
  intro traffic
  have origin : (start name capacity ttl : Traffic K V E).Orderly := .start name capacity ttl
  have orderly : traffic.Orderly := origin.run events
  have traced : traffic.Traced := (Traced.start name capacity ttl).run origin events
  have smooth : traffic.Smooth :=
    (Smooth.start name capacity ttl).run origin (.start name capacity ttl) calm
  have leads_of_loading {id : Nat} {caller : Caller K V E} {call load}
      (found : traffic.callers[id]? = some caller) (loading : caller.stage = .loading call load) :
      ∃ generation, call = .leading ⟨some caller.key⟩ caller.key generation ∧
        traffic.Leads id caller.key := by
    cases call with
    | leading lead key generation =>
        obtain ⟨rfl, rfl, -⟩ := orderly.steady.own_lead found loading
        exact ⟨generation, rfl, caller, found, (Caller.leads_of_leading loading _).trans BEq.rfl⟩
    | waiting ticket => exact absurd loading (orderly.steady.not_waiting found)
    | direct => exact absurd loading (smooth.leading (List.mem_of_getElem? found))
  refine ⟨?_, ?_, ?_, ?_⟩
  · intro id other caller rival call call' load load' found found' loading loading' equal
    obtain ⟨-, -, leads⟩ := leads_of_loading found loading
    obtain ⟨-, -, rival, known, leads'⟩ := leads_of_loading found' loading'
    refine orderly.led.alone leads ⟨rival, known, ?_⟩
    exact (Caller.leads_eq leads' caller.key).trans (BEq.symm equal)
  · intro caller member id knows
    exact ⟨leads_at_begin name capacity ttl events member knows, smooth.follows member knows⟩
  · intro id other leader caller call load result now found loading found' knows waits
    obtain ⟨generation, rfl, leads⟩ := leads_of_loading found loading
    obtain ⟨ended, landed⟩ := orderly.landed found loading (.finish id result now)
    obtain ⟨leader', known, equal, -⟩ := smooth.follows (List.mem_of_getElem? found') knows
    cases found.symm.trans known
    have told := landed.waiters_told other caller found' waits equal
    refine ⟨ended, by rw [told]; rfl, ?_⟩
    rw [callers_resume told rfl]
    rfl
  · intro before after id error now key asked split failing leads others
    have failed := origin.run before
    have steps : traffic = (failing.step (.finish id (.error error) now)).run after := by
      change (start name capacity ttl).run events = _
      rw [split, run_append]
      rfl
    have early : failing.Smooth :=
      (Smooth.start name capacity ttl).run origin (.start name capacity ttl)
        (calmRun_append (split ▸ calm)).1
    have idle : traffic.Idle key :=
      steps ▸ (failed.step _).idle_run (early.idle_of_error failed leads error now) others
    exact ⟨entries_error failing id error now, orderly.begin_idle smooth.usable idle asked⟩

/-! A flight that is joined after a clear, loses its only waiting caller, and ends with an error. -/

def joinedLate : List (Event Nat Nat Nat) := [.begin 7 ⟨0⟩, .clear, .begin 7 ⟨1⟩]

theorem callers_joinedLate :
    ((start "page" 16 .zero : Traffic Nat Nat Nat).run joinedLate).callers =
      [{ key := 7, began := 0, stage := .loading (.leading ⟨some 7⟩ 7 0) ⟨0, 0⟩ },
        { key := 7, began := 2, leader? := some 0, ticket? := some ⟨0⟩, stage := .waiting }] := by
  rw [joinedLate, run, List.foldl_cons, step_begin_new, List.foldl_cons, List.foldl_cons, step,
    Coalescing.begin_of_joined rfl (Lru.get_of_empty rfl 7 ⟨1⟩) rfl]
  rfl

theorem run_singleflight_error :
    let events := joinedLate ++ [.stop 1, .finish 0 (.error 1) ⟨2⟩]
    let traffic := (start "page" 16 .zero : Traffic Nat Nat Nat).run events
    (start "page" 16 .zero : Traffic Nat Nat Nat).CalmRun events ∧
      (traffic.step (.begin 7 ⟨3⟩)).callers[traffic.callers.length]?.map Caller.stage =
        some (.loading (.leading ⟨some 7⟩ 7 traffic.cache.generation)
          (traffic.load traffic.callers.length)) := by
  intro events traffic
  let joined := (start "page" 16 .zero : Traffic Nat Nat Nat).run joinedLate
  have leads : joined.Leads 0 7 := ⟨_, congrArg (·[0]?) callers_joinedLate, rfl⟩
  have follower (key : Nat) : ¬ joined.Leads 1 key := by
    rintro ⟨caller, found, leads⟩
    cases found.symm.trans (congrArg (·[1]?) callers_joinedLate)
    cases leads
  have calm : (start "page" 16 .zero : Traffic Nat Nat Nat).CalmRun events :=
    ⟨trivial, trivial, trivial, follower, trivial, trivial⟩
  have stops : joined.step (.stop 1) = joined.move 1 .stopped joined.cache [] := by
    have found : joined.callers[1]? = _ := congrArg (·[1]?) callers_joinedLate
    rw [step, found]
    rfl
  have failing :
      ((start "page" 16 .zero : Traffic Nat Nat Nat).run (joinedLate ++ [.stop 1])).Leads 0 7 := by
    rw [run_append]
    change (joined.step (.stop 1)).Leads 0 7
    rw [stops]
    exact (leads_move rfl).mpr ⟨by decide, leads⟩
  obtain ⟨-, -, -, next⟩ := run_singleflight "page" 16 .zero events calm
  have silent (other : Nat) (time : Instant)
      (member : Event.begin other time ∈ ([] : List (Event Nat Nat Nat))) : (other == 7) = false :=
    absurd member List.not_mem_nil
  exact ⟨calm, (next (joinedLate ++ [.stop 1]) [] 0 1 ⟨2⟩ 7 ⟨3⟩ rfl failing silent).2⟩

end Traffic

end Roster.Cache
