import Roster.Proofs.Cache.Fetching
import Roster.Proofs.Character.Batch
import Roster.Proofs.Refresh.Seeding

namespace Roster

namespace Source

/-! What a client remembers and hands on was served by a source. -/

def Client.Remembers (client : Client) (serves : SourcePage → Prop) : Prop :=
  client.memo.entries.Sound fun entry => serves entry.value

structure Supplied (serves : SourcePage → Prop) (next : Client × Fetch.Next) : Prop where
  remembers : next.1.Remembers serves
  served : ∀ page, next.2 = .done (.ok page) → serves page

namespace Client.Remembers

variable {client : Client} {serves : SourcePage → Prop}

theorem ask (remembers : client.Remembers serves) (fetch : Fetch) :
    Supplied serves (client.ask fetch) :=
  ⟨remembers, nofun⟩

theorem fail (remembers : client.Remembers serves) (error : SourceError) :
    Supplied serves (client.fail error) :=
  ⟨remembers, nofun⟩

theorem fetch (remembers : client.Remembers serves) (page : UInt32) (now : Instant) :
    Supplied serves (client.fetch page now) := by
  have looked := Cache.Memo.look_looked remembers page now
  rw [Client.fetch]
  generalize client.memo.look page now = result at looked
  cases looked with
  | hit _ sound isGood =>
      refine ⟨sound, fun served done => ?_⟩
      cases done
      exact isGood
  | missed _ sound => exact ⟨sound, fun _ done => by cases done⟩
  | reset => exact ⟨remembers.clear _, fun _ done => by cases done⟩

/-- A page is remembered and handed on if it is what the source has answered. -/
theorem answer (remembers : client.Remembers serves) (fetch : Fetch)
    {result : Except SourceError SourcePage} (told : ∀ page, result = .ok page → serves page)
    (draw : Nat) (now : Instant) : Supplied serves (client.answer fetch result draw now) := by
  cases result with
  | ok page =>
      have kept : client.memo.Kept fetch.page page now (fun entry => serves entry.value)
          (client.memo.keep fetch.page page now) :=
        Cache.Memo.keep_kept remembers fun _ _ => told page rfl
      refine ⟨kept.entries_sound remembers, fun served done => ?_⟩
      cases done
      exact told page rfl
  | error error =>
      cases error with
      | transient page reason retryAfter =>
          rw [Client.answer]
          split
          · exact remembers.fail _
          · exact ⟨remembers, nofun⟩
      | fatal | unavailable => exact remembers.fail _

end Client.Remembers

end Source

namespace Refresh

/-! Whatever is stored was admitted. All rows of the store, and all that cycles have gathered on
their way to it, come from candidates of pages that a source has served. -/

/-- A row is what an admitted candidate of a page leaves. -/
def Comes (serves : SourcePage → Prop) (row : Character) : Prop :=
  ∃ page, serves page ∧ row ∈ Candidate.admitted page.results

theorem Comes.mono {serves known : SourcePage → Prop} {row : Character} (comes : Comes serves row)
    (weaker : ∀ page, serves page → known page) : Comes known row := by
  obtain ⟨page, served, member⟩ := comes
  exact ⟨page, weaker page served, member⟩

def Gathered.Comes (serves : SourcePage → Prop) (gathered : Gathered) : Prop :=
  ∀ row ∈ gathered.kept.rows, Refresh.Comes serves row

theorem Gathered.Comes.add {serves : SourcePage → Prop} {gathered : Gathered}
    (comes : gathered.Comes serves) {page : SourcePage} (served : serves page) :
    (gathered.add page).Comes serves := by
  intro row member
  rcases Batch.mem_insertAll member with old | new
  · exact comes row old
  · exact ⟨page, served, new⟩

/-- What a cycle has gathered so far. -/
def Cycle.gathered? {L : Type} : Cycle L → Option Gathered
  | walking _ gathered _ => some gathered
  | fetching _ gathered .. => some gathered
  | pausing _ gathered .. => some gathered
  | storing _ gathered _ => some gathered
  | _ => none

def Stage.gathered? : Stage → Option Gathered
  | running cycle => cycle.gathered?
  | _ => none

namespace Attempt

structure Vouched (serves : SourcePage → Prop) (attempt : Attempt) : Prop where
  stored : ∀ row ∈ attempt.store.memory.rows.rows, Comes serves row
  remembers : attempt.replica.client.Remembers serves
  gathered : ∀ gathered, attempt.stage.gathered? = some gathered → gathered.Comes serves

variable {attempt : Attempt} {serves : SourcePage → Prop} {store : Simulation.FaultyStore}
  {replica : Replica} {lease : Lease} {gathered : Gathered}

theorem vouched_release (stored : ∀ row ∈ store.memory.rows.rows, Comes serves row)
    (remembers : replica.client.Remembers serves) (lease : Lease) (outcome : Outcome) :
    (take store (Cycle.release replica lease outcome)).Vouched serves :=
  ⟨stored, remembers, nofun⟩

theorem vouched_onLock (stored : ∀ row ∈ store.memory.rows.rows, Comes serves row)
    (remembers : replica.client.Remembers serves) (mode : Mode)
    (answer : Except StoreError (Option Lease)) :
    (take store (Cycle.onLock replica mode answer)).Vouched serves := by
  match answer with
  | .error _ | .ok none => exact ⟨stored, remembers, nofun⟩
  | .ok (some lease) =>
      refine ⟨stored, remembers, fun gathered has => ?_⟩
      cases mode <;> cases has
      exact nofun

theorem vouched_onCount (stored : ∀ row ∈ store.memory.rows.rows, Comes serves row)
    (remembers : replica.client.Remembers serves) (lease : Lease)
    (answer : Except StoreError Nat) :
    (take store (Cycle.onCount replica lease answer)).Vouched serves := by
  unfold Cycle.onCount
  split
  · exact vouched_release stored remembers lease _
  · split
    · exact vouched_release stored remembers lease _
    · refine ⟨stored, remembers, fun gathered has => ?_⟩
      cases has
      exact nofun

theorem vouched_proceed (stored : ∀ row ∈ store.memory.rows.rows, Comes serves row)
    (comes : gathered.Comes serves) (replica : Replica) (lease : Lease) (walk : Source.Walk)
    {next : Source.Client × Source.Fetch.Next} (supplied : Source.Supplied serves next) :
    (take store (Cycle.proceed replica lease gathered walk next)).Vouched serves := by
  obtain ⟨client, next⟩ := next
  obtain ⟨remembers, served⟩ := supplied
  match next with
  | .ask fetch | .pause span fetch =>
      refine ⟨stored, remembers, fun gathered has => ?_⟩
      cases has
      exact comes
  | .done (.error error) =>
      unfold Cycle.proceed Cycle.cutShort
      dsimp only
      split
      · exact vouched_release stored remembers lease _
      · refine ⟨stored, remembers, fun gathered has => ?_⟩
        cases has
        exact comes
  | .done (.ok page) =>
      refine ⟨stored, remembers, fun gathered has => ?_⟩
      cases has
      exact comes.add (served page rfl)

namespace Vouched

variable {cycle : Cycle Lease}

theorem abandon (vouched : attempt.Vouched serves) (cycle : Cycle Lease) :
    (attempt.abandon cycle).Vouched serves where
  stored := by
    have same := congrArg Data.rows (data_abandon attempt cycle)
    change (attempt.abandon cycle).store.memory.rows = attempt.store.memory.rows at same
    rw [same]
    exact vouched.stored
  remembers := by
    rw [Attempt.abandon]
    cases cycle <;> exact vouched.remembers
  gathered := nofun

/-- The store writes rows that a cycle has gathered. -/
theorem advance_storing (vouched : attempt.Vouched serves) (reply : Reply) {cutShort : Bool}
    (runs : attempt.stage = .running (.storing lease gathered cutShort)) :
    (attempt.advance reply (.storing lease gathered cutShort)).Vouched serves := by
  have comes : gathered.Comes serves := vouched.gathered gathered (by rw [runs]; rfl)
  have written := attempt.store.written_upsert gathered.kept.rows
  rw [advance]
  generalize attempt.store.upsert gathered.kept.rows = result at written
  cases written with
  | crashed => exact vouched.abandon _
  | failed _ memory => exact vouched_release (memory ▸ vouched.stored) vouched.remembers lease _
  | @done after _ _ memory =>
      refine ⟨fun row member => ?_, vouched.remembers, fun _ has => by cases has⟩
      change row ∈ after.memory.rows.rows at member
      rw [memory] at member
      rcases Batch.mem_insertAll member with old | new
      · exact vouched.stored row old
      · rcases Batch.mem_insertAll new with none | sent
        · cases none
        · exact comes row sent

/-- A step of a cycle vouched only what the source has served, if need be in this step. -/
theorem advance (vouched : attempt.Vouched serves) (reply : Reply)
    (runs : attempt.stage = .running cycle)
    (told : ∀ lease gathered walk fetch page, cycle = .fetching lease gathered walk fetch →
      reply.page = .ok page → serves page) : (attempt.advance reply cycle).Vouched serves := by
  have stored := vouched.stored
  have remembers := vouched.remembers
  have comes (gathered : Gathered) (has : cycle.gathered? = some gathered) :
      gathered.Comes serves :=
    vouched.gathered gathered (by rw [runs]; exact has)
  cases cycle with
  | acquiring mode =>
      have locking := attempt.store.locking_tryLock mode.lock
      rw [Attempt.advance]
      generalize attempt.store.tryLock mode.lock = result at locking
      cases locking with
      | failed | refused => exact vouched_onLock stored remembers mode _
      | taken =>
          refine vouched_onLock ?_ remembers mode _
          exact stored
  | counting lease => exact vouched_onCount stored remembers lease _
  | walking lease gathered walk =>
      rw [Attempt.advance, Cycle.onWalk]
      split
      · refine ⟨stored, remembers, fun gathered has => ?_⟩
        cases has
        exact comes _ rfl
      · exact vouched_proceed stored (comes gathered rfl) _ lease walk (remembers.fetch _ _)
  | fetching lease gathered walk fetch =>
      exact vouched_proceed stored (comes gathered rfl) _ lease walk
        (remembers.answer fetch (fun page => told lease gathered walk fetch page rfl) _ _)
  | pausing lease gathered walk fetch =>
      exact vouched_proceed stored (comes gathered rfl) _ lease walk (remembers.ask fetch)
  | storing lease gathered cutShort => exact vouched.advance_storing reply runs
  | releasing lease outcome => exact ⟨stored, remembers, fun _ has => by cases has⟩

end Vouched

end Attempt

namespace Fleet

/-- In the course of a run a source has answered a cycle with this page. -/
def Served (origin : Fleet) (events : List Event) (page : SourcePage) : Prop :=
  ∃ before id reply later errand lease gathered walk fetch,
    events = before ++ .reply id reply :: later ∧
    (origin.run before).errands[id]? = some errand ∧
    errand.stage = .running (.fetching lease gathered walk fetch) ∧ reply.page = .ok page

theorem Served.extend {origin : Fleet} {events : List Event} {page : SourcePage}
    (served : Served origin events page) (more : List Event) :
    Served origin (events ++ more) page := by
  obtain ⟨before, id, reply, later, errand, lease, gathered, walk, fetch, rfl, rest⟩ := served
  exact ⟨before, id, reply, later ++ more, errand, lease, gathered, walk, fetch, by simp, rest⟩

theorem Served.cons {origin : Fleet} {event : Event} {events : List Event} {page : SourcePage}
    (served : Served (origin.step event) events page) : Served origin (event :: events) page := by
  obtain ⟨before, id, reply, later, errand, lease, gathered, walk, fetch, rfl, rest⟩ := served
  exact ⟨event :: before, id, reply, later, errand, lease, gathered, walk, fetch, rfl, rest⟩

/-- Nobody else writes to the store, and a client that a coordinator comes to share remembers what
the client of some coordinator does. -/
def Alone (fleet : Fleet) : List Event → Prop
  | [] => True
  | event :: rest =>
    (∀ characters, event ≠ .write characters) ∧
      (∀ place client pages freshness, event = .share place client pages freshness →
        ∃ other, client.memo.entries = (fleet.coordinators other).client.memo.entries) ∧
      (fleet.step event).Alone rest

structure Vouched (serves : SourcePage → Prop) (fleet : Fleet) : Prop where
  stored : ∀ row ∈ fleet.store.memory.rows.rows, Comes serves row
  remembers : ∀ place, (fleet.coordinators place).client.Remembers serves
  gathered : ∀ errand ∈ fleet.errands, ∀ gathered, errand.stage.gathered? = some gathered →
    gathered.Comes serves

variable {fleet : Fleet} {serves known : SourcePage → Prop} {errand : Errand} {id : Nat}

namespace Vouched

theorem mono (vouched : fleet.Vouched serves) (weaker : ∀ page, serves page → known page) :
    fleet.Vouched known where
  stored row member := (vouched.stored row member).mono weaker
  remembers place := (vouched.remembers place).mono fun entry => weaker entry.value
  gathered errand listed gathered has row member :=
    (vouched.gathered errand listed gathered has row member).mono weaker

theorem attempt (vouched : fleet.Vouched serves) (listed : errand ∈ fleet.errands) :
    (fleet.attempt errand).Vouched serves :=
  ⟨vouched.stored, vouched.remembers errand.coordinator, vouched.gathered errand listed⟩

theorem put (vouched : fleet.Vouched serves) {after : Attempt} (vouched' : after.Vouched serves) :
    (fleet.put id errand after).Vouched serves where
  stored := vouched'.stored
  remembers place := by
    rw [Fleet.put]
    by_cases same : place = errand.coordinator
    · subst same
      dsimp only
      rw [Function.update_self]
      exact vouched'.remembers
    · dsimp only
      rw [Function.update_of_ne same]
      exact vouched.remembers place
  gathered other listed := by
    obtain ⟨place, found⟩ := List.mem_iff_getElem?.mp listed
    rcases found_put found with ⟨-, rfl⟩ | ⟨-, found'⟩
    · exact vouched'.gathered
    · exact vouched.gathered other (List.mem_of_getElem? found')

theorem act (vouched : fleet.Vouched serves) (id : Nat) {event : Attempt.Event}
    (own : event.isForeign = false)
    (told : ∀ reply page errand lease gathered walk fetch, event = .reply reply →
      fleet.errands[id]? = some errand →
      errand.stage = .running (.fetching lease gathered walk fetch) → reply.page = .ok page →
      serves page) : (fleet.act id event).Vouched serves := by
  rcases fleet.act_cases id own with same | ⟨errand, cycle, found, runs, acts⟩
  · rw [same]
    exact vouched
  · rw [acts]
    have attempt := vouched.attempt (List.mem_of_getElem? found)
    have runs' : (fleet.attempt errand).stage = .running cycle := runs
    refine vouched.put ?_
    cases event with
    | meanwhile => cases own
    | stop =>
        rw [Attempt.step_stop runs']
        exact attempt.abandon cycle
    | reply reply =>
        rw [Attempt.step_reply runs']
        refine attempt.advance reply runs' ?_
        rintro lease gathered walk fetch page rfl answered
        exact told reply page errand lease gathered walk fetch rfl found runs answered

theorem step (vouched : fleet.Vouched serves) {event : Event}
    (unwritten : ∀ characters, event ≠ .write characters)
    (shared : ∀ place client pages freshness, event = .share place client pages freshness →
      ∃ other, client.memo.entries = (fleet.coordinators other).client.memo.entries)
    (told : ∀ id reply page errand lease gathered walk fetch, event = .reply id reply →
      fleet.errands[id]? = some errand →
      errand.stage = .running (.fetching lease gathered walk fetch) → reply.page = .ok page →
      serves page) : (fleet.step event).Vouched serves := by
  cases event with
  | write characters => exact absurd rfl (unwritten characters)
  | disturb => exact ⟨vouched.stored, vouched.remembers, vouched.gathered⟩
  | begin place mode =>
      have begun : (Errand.begin place mode (.running (.acquiring mode))).stage.gathered? = none :=
        rfl
      refine ⟨vouched.stored, fun other => ?_, fun errand listed gathered has => ?_⟩
      · by_cases same : other = place
        · subst same
          rw [Fleet.step]
          dsimp only
          rw [Function.update_self]
          exact vouched.remembers other
        · rw [Fleet.step]
          dsimp only
          rw [Function.update_of_ne same]
          exact vouched.remembers other
      · rcases List.mem_append.mp listed with old | new
        · exact vouched.gathered errand old gathered has
        · cases List.mem_singleton.mp new
          cases has
  | share place client pages freshness =>
      refine ⟨vouched.stored, fun other => ?_, vouched.gathered⟩
      obtain ⟨lender, same_entries⟩ := shared place client pages freshness rfl
      rw [Fleet.step]
      by_cases same : other = place
      · subst same
        dsimp only
        rw [Function.update_self, Source.Client.Remembers, same_entries]
        exact vouched.remembers lender
      · dsimp only
        rw [Function.update_of_ne same]
        exact vouched.remembers other
  | reply id reply =>
      refine vouched.act id rfl ?_
      rintro reply page errand lease gathered walk fetch ⟨⟩
      exact told id _ page errand lease gathered walk fetch rfl
  | stop id =>
      refine vouched.act id rfl ?_
      rintro reply page errand lease gathered walk fetch ⟨⟩

/-- What is vouched for after a run is what sources have served in the course of it. -/
theorem run {origin : Fleet} (vouched : origin.Vouched serves) {events : List Event}
    (alone : origin.Alone events) :
    (origin.run events).Vouched fun page => serves page ∨ Served origin events page := by
  induction events generalizing origin serves with
  | nil => exact vouched.mono fun _ => .inl
  | cons event rest ih =>
      obtain ⟨unwritten, shared, alone'⟩ := alone
      -- The first event may have served a page, which the rest of the run takes for granted.
      let known (page : SourcePage) : Prop := serves page ∨ Served origin [event] page
      have stepped : (origin.step event).Vouched known := by
        refine (vouched.mono fun _ => .inl).step unwritten shared ?_
        rintro id reply page errand lease gathered walk fetch rfl found fetching answered
        exact .inr ⟨[], id, reply, [], errand, lease, gathered, walk, fetch, rfl, found, fetching,
          answered⟩
      refine (ih stepped alone').mono fun page => ?_
      rintro ((old | now) | later)
      · exact .inl old
      · exact .inr (now.extend rest)
      · exact .inr later.cons

end Vouched

/-- However many coordinators run seeds and refreshes over one store that was empty and that nobody
else writes to: whatever is stored under an id is what is kept of a candidate with this id that some
source has served, a living human from some Earth. -/
theorem run_admitted (store : Simulation.FaultyStore) (coordinators : Nat → Replica)
    (events : List Event) (vacant : store.memory.rows = ∅)
    (fresh : ∀ place, ∃ capacity ttl,
      (coordinators place).client.memo.entries = .new capacity ttl)
    (alone : (start store coordinators).Alone events) (id : Int64) (row : Character)
    (stored : ((start store coordinators).run events).store.memory.get? id = some row) :
    ∃ page candidate, Served (start store coordinators) events page ∧
      candidate ∈ page.results ∧ candidate.id = id ∧ candidate.toCharacter = row ∧
      row.species = "Human" ∧ row.status = "Alive" ∧ "Earth (".toList <+: row.origin.toList := by
  have started : (start store coordinators).Vouched fun _ => False := by
    refine ⟨fun row member => ?_, fun place => ?_, fun _ listed => nomatch listed⟩
    · change row ∈ store.memory.rows.rows at member
      rw [vacant] at member
      cases member
    · obtain ⟨capacity, ttl, entries⟩ := fresh place
      change (coordinators place).client.memo.entries.Sound _
      rw [entries]
      exact .new capacity ttl _
  have vouched := started.run alone
  have own : row.id = id := by simpa using List.find?_some stored
  obtain ⟨page, served, admitted⟩ := vouched.stored row (List.mem_of_find?_eq_some stored)
  obtain ⟨candidate, listed, isAdmitted, rfl⟩ := Candidate.mem_admitted.mp admitted
  obtain ⟨species, status, origin⟩ := Candidate.isAdmitted_iff.mp isAdmitted
  exact ⟨page, candidate, served.resolve_left not_false, listed, own, rfl, species, status, origin⟩

open Attempt (emptyReplica)

/-- A refresh that is served up to its upsert, of a page with one character. -/
def servedOnce : List Event :=
  [.begin 0 .refresh, .reply 0 (rickReply "Rick")] ++
    List.replicate 3 (.reply 0 (rickReply "Rick")) ++ [.reply 0 (rickReply "Rick")]

theorem alone_of_own {events : List Event}
    (own : ∀ event ∈ events, (∀ characters, event ≠ .write characters) ∧
      ∀ place client pages freshness, event ≠ .share place client pages freshness) :
    fleet.Alone events := by
  induction events generalizing fleet with
  | nil => trivial
  | cons event rest ih =>
      obtain ⟨here, later⟩ := List.forall_mem_cons.mp own
      refine ⟨here.1, fun place client pages freshness shares => ?_, ih later⟩
      exact absurd shares (here.2 place client pages freshness)

theorem run_admitted_servedOnce :
    let fleet := (start {} fun _ => emptyReplica).run servedOnce
    ∃ row, fleet.store.memory.get? 7 = some row ∧ ∃ page candidate,
      Served (start {} fun _ => emptyReplica) servedOnce page ∧
      candidate ∈ page.results ∧ candidate.id = 7 ∧ candidate.toCharacter = row ∧
      row.species = "Human" ∧ row.status = "Alive" ∧ "Earth (".toList <+: row.origin.toList := by
  intro fleet
  have walks : ((start {} fun _ => emptyReplica).run (servedOnce.take 2)).errands[0]? =
      some ⟨0, .refresh, .running (.walking ⟨refreshLock, 0, true⟩ {} {}), [.lock refreshLock]⟩ :=
    rfl
  obtain ⟨replica, asked, gathers⟩ := run_rickPage walks rfl rfl "Rick"
  have stored : fleet.store.memory.get? 7 =
      some ⟨7, "Rick", "Alive", "Human", "Earth (C-137)", none, none⟩ := by
    change (run _ (servedOnce.take 2 ++ _ ++ _)).store.memory.get? 7 = _
    rw [run_append, run_append, gathers]
    rfl
  refine ⟨_, stored, run_admitted {} (fun _ => emptyReplica) servedOnce rfl ?_ ?_ 7 _ stored⟩
  · exact fun _ => ⟨_, _, rfl⟩
  · refine alone_of_own fun event listed => ?_
    have listed' : event = .begin 0 .refresh ∨ event = .reply 0 (rickReply "Rick") := by
      simpa [servedOnce] using listed
    constructor
    · rintro characters rfl
      rcases listed' with same | same <;> cases same
    · rintro place client pages freshness rfl
      rcases listed' with same | same <;> cases same

end Fleet

end Refresh

end Roster
