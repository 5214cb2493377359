import Roster.Proofs.Cache.Serving
import Roster.Proofs.Source.Pursuit

namespace Roster.Source

/-! What a client remembers. It asks for a page only when it does not find it, and what it finds for a
page was the answer to a request for that very page. -/

theorem Course.fetch_eq {policy : RetryPolicy} {replies : Nat → Reply} {page : UInt32}
    {pursuit : Pursuit} (course : Course policy replies page pursuit) {fetch : Fetch}
    (asks : pursuit.stage = .asked fetch) : fetch = ⟨page, pursuit.calls⟩ := by
  cases course <;> cases asks
  rfl

theorem Course.answer_eq {policy : RetryPolicy} {replies : Nat → Reply} {page : UInt32}
    {pursuit : Pursuit} (course : Course policy replies page pursuit) {found : SourcePage}
    (ended : pursuit.stage = .ended (.ok found)) : (replies pursuit.calls).page = .ok found := by
  cases course with
  | asked | paused | stopped => cases ended
  | @ended earlier persists final =>
      have concludes := Pursuit.Stage.ended.inj ended
      dsimp only
      cases answer : (replies (earlier + 1)).page with
      | ok =>
          rw [answer] at concludes
          exact concludes
      | error error =>
          rw [answer, conclusion] at concludes
          split at concludes <;> cases concludes

namespace Bureau

variable (script : Nat → Nat → Reply)

def noted (fetch : Fetch) (reply : Reply) : Cache.Memo.Act UInt32 SourcePage :=
  match reply.page with
  | .ok found => .keep fetch.page found reply.now
  | .error _ => .idle

def act (bureau : Bureau) : Event → Cache.Memo.Act UInt32 SourcePage
  | .begin page now => .look page now
  | .advance id =>
    match bureau.pursuits[id]? with
    | some ⟨_, calls, _, .asked fetch⟩ => noted fetch (script id calls)
    | _ => .idle
  | .stop _ => .idle
  | .poison => .spoil

def acts (bureau : Bureau) (events : List Event) : List (Cache.Memo.Act UInt32 SourcePage) :=
  Cache.Memo.actsOf (step script) (act script) bureau events

variable {script} {bureau origin : Bureau} {events : List Event}

theorem memo_answered {client : Client} {fetch : Fetch} {reply : Reply}
    {result : Client × Fetch.Next} (answered : client.Answered fetch reply result) :
    result.1.memo = client.memo.after (noted fetch reply) := by
  cases answered with
  | settled final keeps =>
      rw [noted]
      dsimp only
      rw [keeps]
      cases reply.page <;> rfl
  | postponed passing =>
      rw [noted]
      cases answer : reply.page with
      | ok =>
          rw [answer] at passing
          cases passing
      | error => rfl

theorem memo_step (bureau : Bureau) (event : Event) :
    (bureau.step script event).client.memo = bureau.client.memo.after (bureau.act script event) := by
  cases event with
  | poison => rfl
  | begin page now =>
      have fetched := bureau.client.fetch_fetched page now
      rw [step]
      generalize bureau.client.fetch page now = result at fetched
      cases fetched with
      | remembered looks | asked looks =>
          rw [act, Cache.Memo.after, looks]
  | stop id =>
      rw [step]
      split <;> rfl
  | advance id =>
      cases found : bureau.pursuits[id]? with
      | none =>
          rw [step, act, found]
          rfl
      | some pursuit =>
          obtain ⟨page, calls, pauses, stage⟩ := pursuit
          rw [step, act, found]
          cases stage with
          | asked fetch => exact memo_answered (bureau.client.answer_answered fetch (script id calls))
          | paused | ended | stopped => rfl

theorem memo_run (bureau : Bureau) (events : List Event) :
    (bureau.run script events).client.memo =
      bureau.client.memo.through (bureau.acts script events) :=
  Cache.Memo.through_actsOf (step script) (act script) (·.client.memo) memo_step bureau events

/-- A request for a page was answered with this. -/
def Answered (script : Nat → Nat → Reply) (origin : Bureau) (events : List Event) (page : UInt32)
    (found : SourcePage) : Prop :=
  ∃ before id after pursuit, events = before ++ .advance id :: after ∧
    (origin.run script before).pursuits[id]? = some pursuit ∧
    pursuit.stage = .asked ⟨page, pursuit.calls⟩ ∧ (script id pursuit.calls).page = .ok found

theorem answered_of_keep {policy : RetryPolicy} (sound : origin.Sound policy script)
    {before since : List (Cache.Memo.Act UInt32 SourcePage)} {page : UInt32} {found : SourcePage}
    {stored : Instant} (split : origin.acts script events = before ++ .keep page found stored :: since) :
    origin.Answered script events page found := by
  obtain ⟨earlier, event, later, rfl, -, same⟩ := Cache.Memo.actsOf_split _ _ split
  change (origin.run script earlier).act script event = _ at same
  cases event with
  | advance id =>
      rw [act] at same
      split at same
      · rename_i own calls pauses fetch known
        have course := (sound.run earlier).course known
        have request : fetch = ⟨own, calls⟩ := course.fetch_eq rfl
        rw [noted] at same
        split at same
        · rename_i answer
          cases same
          refine ⟨earlier, id, later, _, rfl, known, ?_, answer⟩
          rw [request]
        · cases same
      · cases same
  | _ => cases same

theorem run_append (script : Nat → Nat → Reply) (bureau : Bureau) (events later : List Event) :
    bureau.run script (events ++ later) = (bureau.run script events).run script later :=
  List.foldl_append

theorem pursuit_set {pursuits : List Pursuit} {id mover : Nat} {before moved pursuit : Pursuit}
    (known : pursuits[mover]? = some before) (same : moved.page = before.page)
    (found : (pursuits.set mover moved)[id]? = some pursuit) :
    ∃ earlier, pursuits[id]? = some earlier ∧ pursuit.page = earlier.page := by
  rw [List.getElem?_set] at found
  split at found
  · rename_i mine
    subst mine
    split at found
    · cases found
      exact ⟨before, known, same⟩
    · cases found
  · exact ⟨pursuit, found, rfl⟩

/-- A pursuit after a step was there before, with the same page, or its page was not found. -/
theorem pursuit_cases {event : Event} {id : Nat} {pursuit : Pursuit}
    (found : (bureau.step script event).pursuits[id]? = some pursuit) :
    (∃ before, bureau.pursuits[id]? = some before ∧ pursuit.page = before.page) ∨
      bureau.pursuits.length = id ∧ ∃ now, event = .begin pursuit.page now ∧
        (bureau.client.memo.look pursuit.page now).2 = none := by
  cases event with
  | poison => exact .inl ⟨pursuit, found, rfl⟩
  | begin page now =>
      have fetched := bureau.client.fetch_fetched page now
      rw [step] at found
      generalize bureau.client.fetch page now = result at fetched found
      cases fetched with
      | remembered => exact .inl ⟨pursuit, found, rfl⟩
      | asked looks =>
          rw [List.getElem?_append] at found
          split at found
          · exact .inl ⟨pursuit, found, rfl⟩
          · rw [List.getElem?_singleton] at found
            split at found
            · cases found
              exact .inr ⟨by omega, now, rfl, by rw [looks]⟩
            · cases found
  | advance mover =>
      rw [step] at found
      split at found
      · split at found
        · exact .inl (pursuit_set ‹_› (Pursuit.page_proceed _ _) found)
        · exact .inl ⟨pursuit, found, rfl⟩
      · exact .inl ⟨pursuit, found, rfl⟩
  | stop mover =>
      rw [step] at found
      split at found
      · exact .inl (pursuit_set ‹_› (Pursuit.page_stop _) found)
      · exact .inl ⟨pursuit, found, rfl⟩

theorem begun_run (script : Nat → Nat → Reply) (settings : Settings.Source) (events : List Event)
    {id : Nat} {pursuit : Pursuit}
    (found : ((start settings).run script events).pursuits[id]? = some pursuit) :
    ∃ before now after, events = before ++ .begin pursuit.page now :: after ∧
      ((start settings).run script before).pursuits.length = id ∧
      (((start settings).run script before).client.memo.look pursuit.page now).2 = none := by
  induction events using List.reverseRecOn generalizing pursuit with
  | nil => cases found
  | append_singleton events event ih =>
      rw [run_append] at found
      rcases pursuit_cases found with ⟨before, known, samePage⟩ | ⟨last, now, rfl, missed⟩
      · obtain ⟨earlier, now, later, rfl, rest⟩ := ih known
        rw [samePage]
        exact ⟨earlier, now, later ++ [event], by simp, rest⟩
      · exact ⟨events, now, [], rfl, last, missed⟩

theorem begin_of_look {page : UInt32} {now : Instant}
    (looks : .look page now ∈ origin.acts script events) : .begin page now ∈ events := by
  obtain ⟨before, since, split⟩ := List.append_of_mem looks
  obtain ⟨earlier, event, later, rfl, -, same⟩ := Cache.Memo.actsOf_split _ _ split
  change (origin.run script earlier).act script event = _ at same
  cases event with
  | begin =>
      cases same
      exact List.mem_append_right _ List.mem_cons_self
  | advance id =>
      rw [act] at same
      split at same
      · rw [noted] at same
        split at same <;> cases same
      · cases same
  | _ => cases same

/-- What a client does that is to fetch a page after these events, and what it has fetched so far. -/
structure Remembers (script : Nat → Nat → Reply) (settings : Settings.Source)
    (events : List Event) : Prop where
  /-- A page that is found is not asked for. It was the answer to a request for the same page, it is
  not too old, and neither was another one kept for the page nor all forgotten since. -/
  found : ∀ page now content,
    (((start settings).run script events).client.memo.look page now).2 = some content →
    (((start settings).run script events).client.fetch page now).2 = .done (.ok content) ∧
    (((start settings).run script events).client.fetch page now).1.tally =
      ((start settings).run script events).client.tally ∧
    (start settings).Answered script events page content ∧
    ∃ stored, (start settings).client.memo.Retained ((start settings).acts script events) page
        content stored ∧
      now.nanos ≤ stored.nanos + settings.cacheTtl.nanos
  /-- A page that is not found is asked for. -/
  missed : ∀ page now,
    (((start settings).run script events).client.memo.look page now).2 = none →
    (((start settings).run script events).client.fetch page now).2 = .ask ⟨page, 1⟩
  /-- All requests are made by pursuits. -/
  calls : ((start settings).run script events).client.tally.calls =
    (((start settings).run script events).pursuits.map Pursuit.calls).sum
  /-- A pursuit begins when its page is not found, and asks for that page only. -/
  begun : ∀ id pursuit, ((start settings).run script events).pursuits[id]? = some pursuit →
    (∃ before now after, events = before ++ .begin pursuit.page now :: after ∧
      ((start settings).run script before).pursuits.length = id ∧
      (((start settings).run script before).client.memo.look pursuit.page now).2 = none) ∧
    (∀ fetch, pursuit.stage = .asked fetch → fetch = ⟨pursuit.page, pursuit.calls⟩) ∧
    ∀ content, pursuit.stage = .ended (.ok content) →
      (script id pursuit.calls).page = .ok content
  /-- A page that was fetched is found by whoever looks for it in time, unless it is lost before or
  when it is looked for. -/
  lasting : ∀ id page calls pauses content,
    ((start settings).run script events).pursuits[id]? =
      some ⟨page, calls, pauses, .asked ⟨page, calls⟩⟩ →
    (script id calls).page = .ok content →
    ((start settings).run script events).client.memo.poisoned = false → settings.cacheMax ≠ 0 →
    ∀ between now, (∀ other time, .begin other time ∈ between → time.nanos ≤ now.nanos) →
    now.nanos ≤ (script id calls).now.nanos + settings.cacheTtl.nanos →
    let kept := ((start settings).run script events).step script (.advance id)
    ((kept.run script between).client.memo.look page now).2 = some content ∨
      ∃ first event rest, between ++ [.begin page now] = first ++ event :: rest ∧
        (kept.run script first).client.memo.Loses ((kept.run script first).act script event) page

theorem remembers (script : Nat → Nat → Reply) (settings : Settings.Source)
    (events : List Event) : Remembers script settings events where
  found page now content found := by
    have looked := found
    rw [memo_run] at looked
    obtain ⟨stored, retained, fresh⟩ := Cache.Memo.retained_of_look (.new _ _ _) looked
    have answered : (start settings).Answered script events page content := by
      obtain ⟨before, since, own, split, equal, -⟩ := retained
      exact eq_of_beq equal ▸ answered_of_keep (.start settings script) split
    have fetched := ((start settings).run script events).client.fetch_fetched page now
    generalize ((start settings).run script events).client.fetch page now = result at fetched
    cases fetched with
    | remembered looks =>
        rw [looks] at found
        cases found
        exact ⟨rfl, rfl, answered, stored, retained, fresh⟩
    | asked looks =>
        rw [looks] at found
        cases found
  missed page now missed := by
    have fetched := ((start settings).run script events).client.fetch_fetched page now
    generalize ((start settings).run script events).client.fetch page now = result at fetched
    cases fetched with
    | remembered looks =>
        rw [looks] at missed
        cases missed
    | asked => rfl
  calls := ((Sound.start settings script).run events).calls
  begun id pursuit found := by
    have course := ((Sound.start settings script).run events).course found
    exact ⟨begun_run script settings events found, fun fetch asks => course.fetch_eq asks,
      fun content ended => course.answer_eq ended⟩
  lasting id page calls pauses content found answer working room between now early fresh := by
    have origin : (start settings).client.memo.entries.Sound fun _ => True := .new _ _ _
    obtain ⟨sound, ttl_eq, capacity_eq⟩ :=
      Cache.Memo.through_sound origin ((start settings).acts script events)
    rw [← memo_run] at sound ttl_eq capacity_eq
    have keeps : ((start settings).run script events).act script (.advance id) =
        .keep page content (script id calls).now := by
      rw [act, found]
      dsimp only
      rw [noted, answer]
    exact Cache.Memo.look_of_kept (step script) (act script) (·.client.memo) memo_step sound keeps
      working (capacity_eq ▸ room) BEq.rfl (fun _ => rfl) between
      (fun looked time looks => early looked time (begin_of_look looks)) (ttl_eq ▸ fresh)

end Bureau

section

variable {K V E : Type} [BEq K] [Hashable K] [EquivBEq K] [LawfulHashable K]

/-- Whoever finds an answer is given what was fetched for its key and is neither too old nor
superseded, and fetches nothing; whoever finds none fetches once for itself. A client of the source
asks for a page in the same way. -/
theorem run_remembers (name : String) (capacity : Nat) (ttl : Span)
    (events : List (Cache.Event K V E)) (script : Nat → Nat → Reply) (settings : Settings.Source)
    (pursued : List Bureau.Event) :
    (Cache.Fetchers.start name capacity ttl : Cache.Fetchers K V E).Remembers capacity ttl events ∧
      Bureau.Remembers script settings pursued :=
  ⟨Cache.Fetchers.remembers name capacity ttl events, Bureau.remembers script settings pursued⟩

end

/-! An answer that is asked for again, and a page that is asked for first. -/

theorem run_remembers_askedAgain :
    let origin : Cache.Fetchers Nat Nat Nat := Cache.Fetchers.start "upstream" 16 (.ofSecs 60)
    let events : List (Cache.Event Nat Nat Nat) := [.begin 7 ⟨0⟩, .finish 0 (.ok 1) ⟨1⟩]
    (origin.run (events ++ [.begin 7 ⟨2⟩])).callers[1]? =
        some ⟨7, 2, .returned (.ok ⟨1, ⟨0, 0⟩⟩)⟩ ∧
      ((Bureau.start {}).client.fetch 1 ⟨0⟩).2 = .ask ⟨1, 1⟩ := by
  intro origin events
  obtain ⟨served, fetched⟩ := run_remembers "upstream" 16 (.ofSecs 60) events Bureau.recovering {} []
  let missed : Cache.Memo Nat (Cache.Loaded Nat) :=
    { Cache.Memo.new "upstream" 16 (.ofSecs 60) with counters := { misses := 1 } }
  have run : origin.run events =
      { memo := missed.keep 7 ⟨1, ⟨0, 0⟩⟩ ⟨1⟩
        callers := [⟨7, 0, .returned (.ok ⟨1, ⟨0, 0⟩⟩)⟩]
        moment := 2 } := by
    rw [Cache.Fetchers.run, List.foldl_cons, Cache.Fetchers.step_begin_new]
    rfl
  have faithful : missed.Faithful fun _ => none := ⟨rfl, .new _ _ _⟩
  have found : ((origin.run events).memo.look 7 ⟨2⟩).2 = some ⟨1, ⟨0, 0⟩⟩ := by
    rw [run]
    exact faithful.look_keep (by decide) 7 _ (by decide)
  have answered := (served.hit 7 ⟨2⟩ _ found).2.2 []
  have length : (origin.run events).callers.length = 1 := by rw [run]; rfl
  rw [length] at answered
  exact ⟨answered, fetched.missed 1 ⟨0⟩ (congrArg Prod.snd (Cache.Memo.look_new _ _ _ _ _))⟩

end Roster.Source
