import Roster.Proofs.Cache.Steps
import Roster.Proofs.Deployment

namespace Roster

/-! The page cache never serves a page that the store would not serve now, as soon as every upsert
that has taken effect has been followed by its clear. Until then the entries may be older than the
store, but what is wrong with them is gone when the last clear is through, and what was looked up
before that is not stored any more. -/

variable {σ L : Type} {backend : Backend σ} {deployment after : Deployment σ L}

namespace Deployment

/-- A page is as fresh as can be told: it is what the store would serve, or an upsert still waits for
its clear. -/
def Accurate (deployment : Deployment σ L) (backend : Backend σ) (query : Listing.Query)
    (slice : Listing.Slice) : Prop :=
  deployment.Settled → slice = backend.query deployment.contents query

/-- A step that writes nothing to the store and clears no debts. -/
structure Quiet (deployment after : Deployment σ L) : Prop where
  contents : after.contents = deployment.contents
  settled : after.Settled → deployment.Settled
  generation : deployment.pages.generation ≤ after.pages.generation

theorem Accurate.later {query : Listing.Query} {slice : Listing.Slice}
    (accurate : deployment.Accurate backend query slice) (quiet : deployment.Quiet after) :
    after.Accurate backend query slice := by
  intro settled
  rw [quiet.contents]
  exact accurate (quiet.settled settled)

end Deployment

/-- What a reader would store, if it still stores anything, is a page for its query. -/
def Reader.Accurate (reader : Reader) (backend : Backend σ) (deployment : Deployment σ L) : Prop :=
  match reader with
  | .loading query (.leading _ key generation) found? =>
      key = query ∧ generation ≤ deployment.pages.generation ∧
        (deployment.pages.generation = generation → ∀ slice, found? = some slice →
          deployment.Accurate backend query slice)
  | _ => True

namespace Reader.Accurate

variable {reader : Reader}

theorem later (accurate : reader.Accurate backend deployment)
    (quiet : deployment.Quiet after) : reader.Accurate backend after := by
  unfold Reader.Accurate at accurate ⊢
  split at accurate
  · obtain ⟨own, began, safe⟩ := accurate
    have grows := quiet.generation
    refine ⟨own, by omega, fun current slice found => ?_⟩
    exact (safe (by omega) slice found).later quiet
  · trivial

theorem outdated (accurate : reader.Accurate backend deployment)
    (grows : deployment.pages.generation < after.pages.generation) :
    reader.Accurate backend after := by
  unfold Reader.Accurate at accurate ⊢
  split at accurate
  · obtain ⟨own, began, -⟩ := accurate
    exact ⟨own, by omega, fun current => by omega⟩
  · trivial

theorem unsettled (accurate : reader.Accurate backend deployment) (unsettled : ¬ after.Settled)
    (grows : deployment.pages.generation ≤ after.pages.generation) :
    reader.Accurate backend after := by
  unfold Reader.Accurate at accurate ⊢
  split at accurate
  · obtain ⟨own, began, -⟩ := accurate
    exact ⟨own, by omega, fun _ _ _ settled => absurd settled unsettled⟩
  · trivial

theorem hear (accurate : reader.Accurate backend deployment)
    (notices : List Listing.Call.Notice) : (reader.hear notices).Accurate backend deployment := by
  cases reader with
  | waiting query ticket =>
      unfold Reader.hear
      dsimp only
      split <;> trivial
  | _ => exact accurate

end Reader.Accurate

theorem Listing.Call.begin_spec {pages : PageCache}
    {good : Cache.Entry Listing.Query Listing.Slice → Prop} (sound : pages.entries.Sound good)
    (query : Listing.Query) (now : Instant) :
    ∃ pages' step, Listing.Call.begin pages query now = (pages', step, []) ∧
      pages'.entries.Sound good ∧ pages.generation ≤ pages'.generation ∧
      (∀ result, step = .done result →
        ∃ entry, good entry ∧ entry.key = query ∧ result = .ok entry.value) ∧
      ∀ asked lead key generation,
        step = .await (.loading asked (.leading lead key generation)) →
        key = asked ∧ generation ≤ pages'.generation := by
  obtain ⟨pages', begin, begins, begun⟩ :=
    Cache.Coalescing.begin_begun (E := StoreError) sound query now
  have sound' := begun.entries_sound sound
  have grows := begun.generation_le
  unfold Listing.Call.begin
  rw [begins]
  cases begun with
  | hit working _ isGood equal =>
      refine ⟨_, .done (.ok _), rfl, sound', grows, ?_, fun _ _ _ _ awaits => nomatch awaits⟩
      intro result done
      cases done
      exact ⟨_, isGood, eq_of_beq equal, rfl⟩
  | joined =>
      exact ⟨_, .await (.waiting query _), rfl, sound', grows, nofun,
        fun _ _ _ _ awaits => nomatch awaits⟩
  | opened =>
      refine ⟨_, .await (.loading query _), rfl, sound', grows, nofun, ?_⟩
      intro asked lead key generation awaits
      cases awaits
      exact ⟨rfl, Nat.le_refl _⟩
  | bypassed =>
      exact ⟨_, .await (.loading query .direct), rfl, sound', grows, nofun,
        fun _ _ _ _ awaits => nomatch awaits⟩

namespace Deployment

structure Coherent (backend : Backend σ) (deployment : Deployment σ L) : Prop where
  entries : deployment.pages.entries.Sound fun entry =>
    deployment.Accurate backend entry.key entry.value
  readers : ∀ {reader}, reader ∈ deployment.readers → reader.Accurate backend deployment
  writers : ∀ {writer}, writer ∈ deployment.writers → writer.Sound

theorem Coherent.list (coherent : deployment.Coherent backend) {query : Listing.Query}
    {now : Instant} (takes : deployment.step? backend (.list query now) = some after) :
    after.Coherent backend := by
  obtain ⟨pages, step, begins, sound, grows, -, leads⟩ :=
    Listing.Call.begin_spec coherent.entries query now
  rw [step?, begins] at takes
  cases takes
  constructor
  case entries => exact sound
  case writers => exact coherent.writers
  case readers =>
    intro reader member
    rcases List.mem_append.mp member with old | new
    · obtain ⟨before, known, rfl⟩ := List.mem_map.mp old
      exact ((coherent.readers known).hear []).later ⟨rfl, fun settled => settled, grows⟩
    · cases List.mem_singleton.mp new
      cases step with
      | done => trivial
      | await call =>
          cases call with
          | waiting => trivial
          | loading asked load =>
              cases load with
              | leading lead key generation =>
                  obtain ⟨own, began⟩ := leads asked lead key generation rfl
                  exact ⟨own, began, nofun⟩
              | _ => trivial

theorem Coherent.finish (coherent : deployment.Coherent backend) {query : Listing.Query}
    {load : Cache.Coalescing.Call Listing.Query} {found? : Option Listing.Slice}
    (accurate : (Reader.loading query load found?).Accurate backend deployment)
    (answer : Except StoreError Listing.Slice) (now : Instant)
    (looked : ∀ {slice}, answer = .ok slice → found? = some slice) :
    let pages := (deployment.pages.finish load answer now).1
    (pages.entries.Sound fun entry => deployment.Accurate backend entry.key entry.value) ∧
      deployment.pages.generation ≤ pages.generation := by
  apply Cache.Coalescing.finish_stored coherent.entries load answer now
  intro lead key generation value leading answered current stored equal
  subst leading
  obtain ⟨own, -, looks⟩ := accurate
  cases eq_of_beq equal
  exact own ▸ looks current value (looked answered)

/-- What a step of a reader can do to the page cache, and what the reader may store afterwards. -/
theorem Coherent.react (coherent : deployment.Coherent backend) {reader after : Reader}
    {event : Reader.Event} {pages : PageCache} {notices : List Listing.Call.Notice}
    (accurate : reader.Accurate backend deployment)
    (reacts : reader.react deployment.pages (backend.query deployment.contents) event =
      some (pages, notices, after)) :
    (pages.entries.Sound fun entry => deployment.Accurate backend entry.key entry.value) ∧
      deployment.pages.generation ≤ pages.generation ∧
      after.Accurate backend { deployment with pages } := by
  have idle {reader : Reader} (aside : ∀ deployment : Deployment σ L,
      reader.Accurate backend deployment) :
      (deployment.pages.entries.Sound fun entry =>
        deployment.Accurate backend entry.key entry.value) ∧
      deployment.pages.generation ≤ deployment.pages.generation ∧
      reader.Accurate backend { deployment with pages := deployment.pages } :=
    ⟨coherent.entries, Nat.le_refl _, aside _⟩
  unfold Reader.react at reacts
  split at reacts
  case h_1 query load found? =>
      cases reacts
      refine ⟨coherent.entries, Nat.le_refl _, ?_⟩
      cases load with
      | leading lead key generation =>
          obtain ⟨own, began, -⟩ := accurate
          refine ⟨own, began, fun _ slice looked _ => ?_⟩
          exact (Option.some.inj looked).symm
      | _ => trivial
  case h_2 query load slice now =>
      cases reacts
      obtain ⟨sound, grows⟩ := coherent.finish accurate (.ok slice) now fun answered => by
        cases answered
        rfl
      exact ⟨sound, grows, trivial⟩
  case h_3 query load found? error now =>
      cases reacts
      obtain ⟨sound, grows⟩ := coherent.finish accurate (.error error) now nofun
      exact ⟨sound, grows, trivial⟩
  case h_4 query notice =>
      cases reacts
      apply idle
      cases notice <;> exact fun _ => trivial
  case h_5 =>
      cases reacts
      exact idle fun _ => trivial
  case h_6 query load found? =>
      cases reacts
      cases load with
      | leading lead key generation =>
          obtain ⟨entries, same⟩ :=
            Cache.Coalescing.drop_entries (E := StoreError) lead deployment.pages
          refine ⟨?_, Nat.le_of_eq same.symm, trivial⟩
          change (lead.drop (E := StoreError) deployment.pages).1.entries.Sound _
          rw [entries]
          exact coherent.entries
      | _ => exact idle fun _ => trivial
  case h_7 =>
      cases reacts
      exact idle fun _ => trivial
  case h_8 => cases reacts

theorem Coherent.read (coherent : deployment.Coherent backend) {id : Nat} {event : Reader.Event}
    (takes : deployment.step? backend (.read id event) = some after) :
    after.Coherent backend := by
  simp only [step?, Option.bind_eq_bind, Option.bind_eq_some_iff] at takes
  obtain ⟨reader, found, ⟨pages, notices, next⟩, reacts, takes⟩ := takes
  cases takes
  obtain ⟨sound, grows, accurate⟩ :=
    coherent.react (coherent.readers (List.mem_of_getElem? found)) reacts
  constructor
  case entries => exact sound
  case writers => exact coherent.writers
  case readers =>
    intro other member
    rcases List.mem_or_eq_of_mem_set member with old | rfl
    · obtain ⟨before, known, rfl⟩ := List.mem_map.mp old
      exact ((coherent.readers known).hear notices).later ⟨rfl, fun settled => settled, grows⟩
    · exact accurate

theorem settled_of_set {id : Nat} {writer next : Writer L}
    (found : deployment.writers[id]? = some writer) (written : next.written = writer.written)
    (cleared : next.cleared = writer.cleared)
    (writers : after.writers = deployment.writers.set id next) (settled : after.Settled) :
    deployment.Settled := by
  intro other member isWritten
  obtain ⟨place, known⟩ := List.mem_iff_getElem?.mp member
  have bounded := (List.getElem?_eq_some_iff.mp found).1
  by_cases same : id = place
  · subst same
    cases found.symm.trans known
    rw [← cleared]
    apply settled next
    · rw [writers]
      exact List.mem_set bounded next
    · rw [written, isWritten]
  · apply settled other
    · rw [writers]
      apply List.mem_of_getElem?
      rw [List.getElem?_set_ne same]
      exact known
    · exact isWritten

/-- A step of a writer that writes nothing to the store. If it clears the page cache then it does so
with everything that readers could still store. -/
theorem Coherent.write (coherent : deployment.Coherent backend) {id : Nat} {writer next : Writer L}
    (found : deployment.writers[id]? = some writer) (sound : next.Sound)
    (written : next.written = writer.written) {replica : Replica}
    (clears : replica.pages = deployment.pages ∧ next.cleared = writer.cleared ∨
      replica.pages = deployment.pages.clear) :
    (deployment.write id next replica).Coherent backend := by
  have writers : ∀ {other}, other ∈ (deployment.write id next replica).writers → other.Sound := by
    intro other member
    rcases List.mem_or_eq_of_mem_set member with old | rfl
    · exact coherent.writers old
    · exact sound
  rcases clears with ⟨same, cleared⟩ | clears
  · have quiet : deployment.Quiet (deployment.write id next replica) := by
      refine ⟨rfl, settled_of_set found written cleared rfl, ?_⟩
      exact Nat.le_of_eq (congrArg _ same.symm)
    refine ⟨?_, fun member => (coherent.readers member).later quiet, writers⟩
    change replica.pages.entries.Sound _
    rw [same]
    exact coherent.entries.mono fun entry accurate => accurate.later quiet
  · have grows : deployment.pages.generation <
        (deployment.write id next replica).pages.generation := by
      change _ < replica.pages.generation
      rw [clears]
      exact Nat.lt_succ_self _
    refine ⟨?_, fun member => (coherent.readers member).outdated grows, writers⟩
    change replica.pages.entries.Sound _
    rw [clears]
    exact coherent.entries.clear _

theorem coordinator?_pages {place : Nat} {replica : Replica}
    (found : deployment.coordinator? place = some replica) :
    replica.pages = deployment.pages := by
  obtain ⟨own, -, rfl⟩ := Option.map_eq_some_iff.mp found
  rfl

theorem Coherent.cycle (coherent : deployment.Coherent backend) {place : Nat}
    {mode : Refresh.Mode} (takes : deployment.step? backend (.cycle place mode) = some after) :
    after.Coherent backend := by
  simp only [step?, Option.bind_eq_bind, Option.bind_eq_some_iff] at takes
  obtain ⟨replica, found, takes⟩ := takes
  have same := coordinator?_pages found
  cases takes
  have quiet : deployment.Quiet
      { deployment with
        pages := replica.pages
        coordinators :=
          deployment.coordinators.set place (Refresh.Cycle.start (L := L) replica mode).1
        writers := deployment.writers ++ [{
          coordinator := place
          cycle? := some (Refresh.Cycle.start (L := L) replica mode).2 }] } := by
    refine ⟨rfl, fun settled writer member => ?_, Nat.le_of_eq (congrArg _ same.symm)⟩
    exact settled writer (List.mem_append_left _ member)
  constructor
  case entries =>
    change replica.pages.entries.Sound _
    rw [same]
    exact coherent.entries.mono fun entry accurate => accurate.later quiet
  case readers => exact fun member => (coherent.readers member).later quiet
  case writers =>
    intro writer member
    rcases List.mem_append.mp member with old | new
    · exact coherent.writers old
    · cases List.mem_singleton.mp new
      apply Writer.Sound.begin

theorem Coherent.reply (coherent : deployment.Coherent backend) {id : Nat}
    {answer : Refresh.Cycle.Answer L}
    (takes : deployment.step? backend (.reply id answer) = some after) :
    after.Coherent backend := by
  simp only [step?, Option.bind_eq_bind, Option.bind_eq_some_iff] at takes
  obtain ⟨writer, found, cycle, heeds, replica, lent, result, reacts, takes⟩ := takes
  cases takes
  obtain ⟨running, written⟩ := Writer.heed?_eq_some heeds
  have pages := Refresh.Cycle.pages_take? reacts
  rw [coordinator?_pages lent] at pages
  have sound := (coherent.writers (List.mem_of_getElem? found)).advance running reacts written
  apply coherent.write found sound (Writer.written_advance ..)
  cases clears : answer.isWritten with
  | true => exact .inr (by rw [pages, clears, if_pos rfl])
  | false =>
      refine .inl ⟨by simp [pages, clears], ?_⟩
      rw [Writer.cleared_advance, clears, Bool.or_false]

theorem Coherent.commit (coherent : deployment.Coherent backend) {id : Nat}
    (takes : deployment.step? backend (.commit id) = some after) : after.Coherent backend := by
  simp only [step?, Option.bind_eq_bind, Option.bind_eq_some_iff] at takes
  obtain ⟨writer, found, rows, sent, takes⟩ := takes
  cases takes
  have sound := coherent.writers (List.mem_of_getElem? found)
  let done : Writer L := { writer with unwritten? := none, written := true }
  have present : done ∈ deployment.writers.set id done :=
    List.mem_set (List.getElem?_eq_some_iff.mp found).1 done
  -- From now on until its clear, this upsert leaves the deployment unsettled.
  have unsettled : ¬ Settled { deployment with
      contents := backend.write deployment.contents rows
      writers := deployment.writers.set id done } := by
    intro settled
    have nothing := sound.once (sound.cleared (settled done present rfl)).1
    simp [sent] at nothing
  constructor
  case entries =>
    exact coherent.entries.mono fun entry _ settled => absurd settled unsettled
  case readers => exact fun member => (coherent.readers member).unsettled unsettled (Nat.le_refl _)
  case writers =>
    intro other member
    rcases List.mem_or_eq_of_mem_set member with old | rfl
    · exact coherent.writers old
    · exact sound.commit sent

theorem Coherent.stop (coherent : deployment.Coherent backend) {id : Nat}
    (takes : deployment.step? backend (.stop id) = some after) : after.Coherent backend := by
  simp only [step?, Option.bind_eq_bind, Option.bind_eq_some_iff] at takes
  obtain ⟨writer, found, cycle, running, replica, lent, takes⟩ := takes
  cases takes
  have sound := coherent.writers (List.mem_of_getElem? found)
  apply coherent.write found sound.stop rfl
  refine .inl ⟨?_, rfl⟩
  rw [← coordinator?_pages lent]
  cases cycle <;> rfl

theorem Coherent.step (coherent : deployment.Coherent backend) (event : Event L) :
    (deployment.step backend event).Coherent backend := by
  unfold Deployment.step
  cases takes : deployment.step? backend event with
  | none => exact coherent
  | some after =>
      rw [Option.getD_some]
      cases event with
      | list => exact coherent.list takes
      | read => exact coherent.read takes
      | cycle => exact coherent.cycle takes
      | reply => exact coherent.reply takes
      | commit => exact coherent.commit takes
      | stop => exact coherent.stop takes
      | poison =>
          cases takes
          exact ⟨coherent.entries, coherent.readers, coherent.writers⟩

theorem Coherent.run (coherent : deployment.Coherent backend) (events : List (Event L)) :
    (deployment.run backend events).Coherent backend := by
  induction events generalizing deployment with
  | nil => exact coherent
  | cons event rest ih => exact ih (coherent.step event)

theorem Coherent.start (contents : σ) (capacity : Nat) (ttl : Span)
    (coordinators : List Replica) :
    (start contents capacity ttl coordinators : Deployment σ L).Coherent backend where
  entries := .new capacity ttl _
  readers member := nomatch member
  writers member := nomatch member

/-- Whenever every upsert that has taken effect has been followed by the clear of its cycle, all
entries of the page cache are what the store would serve now, and so is every page that is served
from them. -/
theorem run_coherent (backend : Backend σ) (contents : σ) (capacity : Nat) (ttl : Span)
    (coordinators : List Replica) (events : List (Event L)) :
    let deployment := (start contents capacity ttl coordinators).run backend events
    deployment.Settled →
      (∀ query slice, deployment.pages.entries.peek? query = some slice →
        slice = backend.query deployment.contents query) ∧
      ∀ query now pages slice notices,
        Listing.Call.begin deployment.pages query now = (pages, .done (.ok slice), notices) →
        slice = backend.query deployment.contents query := by
  intro deployment settled
  have coherent : deployment.Coherent backend :=
    (Coherent.start contents capacity ttl coordinators).run events
  constructor
  · intro query slice kept
    obtain ⟨entry, accurate, equal, rfl⟩ := coherent.entries.peek? kept
    rw [← eq_of_beq equal]
    exact accurate settled
  · intro query now pages slice notices hits
    obtain ⟨pages', step, begins, -, -, served, -⟩ :=
      Listing.Call.begin_spec coherent.entries query now
    cases begins.symm.trans hits
    obtain ⟨entry, accurate, rfl, same⟩ := served _ rfl
    cases same
    exact accurate settled

/-! A run in which one reader looks up its page before an upsert takes effect and goes on after the
clear, and another asks when all is over. -/

/-- What becomes of a query whose page is not kept and is not being looked up. -/
theorem step_list {query : Listing.Query} {now : Instant}
    (working : deployment.pages.poisoned = false)
    (missing : deployment.pages.entries.get query now = .ok (deployment.pages.entries, none))
    (unled : deployment.pages.waiters? query = none) :
    deployment.step backend (.list query now) =
      { deployment with
        pages := { deployment.pages with
          flights := deployment.pages.flights ++ [(query, [])]
          counters := deployment.pages.counters.miss }
        readers := deployment.readers.map (·.hear []) ++
          [.loading query (.leading ⟨some query⟩ query deployment.pages.generation) none] } := by
  rw [step, step?, Listing.Call.begin, Cache.Coalescing.begin_of_missing working missing unled]
  rfl

/-- What becomes of a page that was looked up for one reader alone. -/
theorem step_answer {id : Nat} {query key : Listing.Query} {generation : Nat}
    {slice : Listing.Slice} {now : Instant} {pages : PageCache}
    (loads : deployment.readers[id]? =
      some (.loading query (.leading ⟨some key⟩ key generation) (some slice)))
    (stores : deployment.pages.store key slice generation now = pages)
    (alone : pages.flights = [(key, [])]) :
    deployment.step backend (.read id (.answer now)) =
      { deployment with
        pages := { pages with flights := [] }
        readers := (deployment.readers.map (·.hear [])).set id (.returned (.ok slice)) } := by
  have reacts : Reader.react deployment.pages (backend.query deployment.contents)
      (.loading query (.leading ⟨some key⟩ key generation) (some slice)) (.answer now) =
      some ({ pages with flights := [] }, [], .returned (.ok slice)) := by
    rw [Reader.react, Listing.Call.onAnswer, Cache.Coalescing.finish]
    dsimp only
    rw [stores, Cache.Coalescing.complete_of_alone alone]
    rfl
  simp only [step, step?, loads, reacts, Option.bind_eq_bind, Option.bind_some]
  rfl

def forgetful : Replica where
  client := { memo := { Cache.Memo.new "upstream" 0 .zero with poisoned := true }, retry := {} }
  pages := .new "page" 0 .zero
  freshness := { ttl := .zero }

def human : Candidate :=
  { id := 1, status := "Alive", species := "Human", origin := { name := "Earth (C-137)" } }

/-- From the look-up for the first reader to the clear. -/
def rewriting : List (Event Nat) :=
  [.read 0 .look, .cycle 0 .refresh, .reply 0 (.lock (.ok (some 0))), .reply 0 (.walk ⟨0⟩),
    .reply 0 (.page (.ok { results := [human] }) 0 ⟨1⟩), .reply 0 (.walk ⟨2⟩), .commit 0,
    .reply 0 (.upsert (.ok 1) default)]

def straddling : List (Event Nat) :=
  .list default ⟨0⟩ :: (rewriting ++
    [.read 0 (.answer ⟨3⟩), .list default ⟨4⟩, .read 1 .look, .read 1 (.answer ⟨5⟩)])

def unasked : Deployment Store.Memory Nat := start {} 16 (.ofSecs 30) [forgetful]

def asked : Deployment Store.Memory Nat :=
  { unasked with
    pages := { unasked.pages with flights := [(default, [])], counters := Cache.Counters.miss {} }
    readers := [.loading default (.leading ⟨some default⟩ default 0) none] }

def rewritten : Deployment Store.Memory Nat := asked.run Backend.memory rewriting

def emptied : PageCache :=
  { unasked.pages with
    entries := unasked.pages.entries.clear
    generation := 1
    counters := Cache.Counters.miss {} }

theorem pages_rewritten : rewritten.pages = { emptied with flights := [(default, [])] } := rfl

theorem readers_rewritten :
    rewritten.readers =
      [.loading default (.leading ⟨some default⟩ default 0)
        (some (Store.Memory.query {} default))] :=
  rfl

theorem flags_rewritten :
    rewritten.writers.map (fun writer => (writer.written, writer.cleared)) = [(true, true)] := rfl

/-- The first reader stores nothing, the second does. -/
theorem run_straddling :
    ∃ entries, emptied.entries.insert default (rewritten.contents.query default) ⟨5⟩ = .ok entries ∧
      unasked.run Backend.memory straddling =
        { rewritten with
          pages := { emptied with entries, counters := emptied.counters.miss.put }
          readers := [.returned (.ok (Store.Memory.query {} default)),
            .returned (.ok (rewritten.contents.query default))] } := by
  have fresh : emptied.entries.Refines _ := Cache.Lru.clear_refines (Cache.Lru.new_refines 16 _)
  obtain ⟨entries, inserts, -⟩ :=
    Cache.Lru.insert_refines fresh default (rewritten.contents.query default) ⟨5⟩
  refine ⟨entries, inserts, ?_⟩
  have asks : unasked.step Backend.memory (.list default ⟨0⟩) = asked :=
    step_list rfl (Cache.Lru.get_of_empty rfl _ _) rfl
  let served : Reader := .returned (.ok (Store.Memory.query {} default))
  let idle : Deployment Store.Memory Nat :=
    { rewritten with pages := emptied, readers := [served] }
  have skips : rewritten.step Backend.memory (.read 0 (.answer ⟨3⟩)) = idle := by
    have outdated : rewritten.pages.generation ≠ 0 := by
      rw [pages_rewritten]
      decide
    exact step_answer (by rw [readers_rewritten]; rfl)
      (Cache.Coalescing.store_of_outdated rfl outdated ..) rfl
  let again : Deployment Store.Memory Nat :=
    { rewritten with
      pages := { emptied with flights := [(default, [])], counters := emptied.counters.miss }
      readers := [served, .loading default (.leading ⟨some default⟩ default 1) none] }
  have asksAgain : idle.step Backend.memory (.list default ⟨4⟩) = again :=
    step_list rfl (Cache.Lru.get_of_empty rfl _ _) rfl
  let looked : Deployment Store.Memory Nat :=
    { again with
      readers := [served, .loading default (.leading ⟨some default⟩ default 1)
        (some (rewritten.contents.query default))] }
  have looks : again.step Backend.memory (.read 1 .look) = looked := rfl
  have stores : looked.pages.store default (rewritten.contents.query default) 1 ⟨5⟩ =
      { looked.pages with entries, counters := looked.pages.counters.put } :=
    Cache.Coalescing.store_of_insert rfl rfl inserts
  have keeps : looked.step Backend.memory (.read 1 (.answer ⟨5⟩)) =
      { looked with
        pages := { emptied with entries, counters := emptied.counters.miss.put }
        readers := [served, .returned (.ok (rewritten.contents.query default))] } :=
    step_answer rfl stores rfl
  rw [straddling, run, List.foldl_cons, List.foldl_append, asks]
  change List.foldl _ rewritten _ = _
  simp only [List.foldl_cons, List.foldl_nil, skips, asksAgain, looks, keeps]
  rfl

theorem run_coherent_straddling :
    let deployment := unasked.run Backend.memory straddling
    deployment.Settled ∧
      (∃ stale, deployment.readers[0]? = some (.returned (.ok stale)) ∧
        stale ≠ deployment.contents.query default) ∧
      (∃ slice, deployment.pages.entries.peek? default = some slice ∧
        slice = deployment.contents.query default) ∧
      ∃ pages slice notices,
        Listing.Call.begin deployment.pages default ⟨6⟩ = (pages, .done (.ok slice), notices) ∧
          slice = deployment.contents.query default := by
  intro deployment
  obtain ⟨entries, inserts, runs⟩ := run_straddling
  have ends : deployment = _ := runs
  have settled : deployment.Settled := by
    intro writer member _
    rw [ends] at member
    have listed := List.mem_map_of_mem (f := fun writer => (writer.written, writer.cleared)) member
    rw [flags_rewritten] at listed
    exact (Prod.mk.inj (List.mem_singleton.mp listed)).2
  obtain ⟨keeps, serves⟩ :=
    run_coherent Backend.memory {} 16 (.ofSecs 30) [forgetful] straddling settled
  let bare : Cache.Recency Listing.Query Listing.Slice := .new 16 (.ofSecs 30)
  have fresh : emptied.entries.Refines bare.clear :=
    Cache.Lru.clear_refines (Cache.Lru.new_refines 16 _)
  obtain ⟨inserted, inserts', refines⟩ :=
    Cache.Lru.insert_refines fresh default (rewritten.contents.query default) ⟨5⟩
  cases inserts.symm.trans inserts'
  have room : (16 : Nat) ≠ 0 := by decide
  refine ⟨settled, ⟨Store.Memory.query {} default, by rw [ends]; rfl, ?_⟩, ?_, ?_⟩
  · rw [ends]
    intro same
    cases congrArg Listing.Slice.total same
  · have found : ∃ stored,
        (bare.clear.insert default (rewritten.contents.query default) ⟨5⟩).find? default =
          some ⟨stored, rewritten.contents.query default, ⟨5⟩⟩ :=
      Cache.Recency.find?_insert room .nil
    obtain ⟨stored, found⟩ := found
    have kept : deployment.pages.entries.peek? default = some (rewritten.contents.query default) := by
      rw [ends, Cache.Lru.peek?_eq refines]
      exact congrArg _ found
    exact ⟨_, kept, keeps _ _ kept⟩
  · obtain ⟨looked, gets, -⟩ := Cache.Lru.get_refines refines default ⟨6⟩
    rw [Cache.Recency.get_insert room .nil (by decide)] at gets
    have hits : ∃ pages, Listing.Call.begin deployment.pages default ⟨6⟩ =
        (pages, .done (.ok (rewritten.contents.query default)), []) := by
      have working : deployment.pages.poisoned = false := by rw [ends]; rfl
      have kept : deployment.pages.entries.get default ⟨6⟩ =
          .ok (looked, some (rewritten.contents.query default)) := by
        rw [ends]
        exact gets
      rw [Listing.Call.begin, Cache.Coalescing.begin_of_found working kept]
      exact ⟨_, rfl⟩
    obtain ⟨pages, hits⟩ := hits
    exact ⟨_, _, _, hits, serves _ _ _ _ _ hits⟩

end Deployment

end Roster
