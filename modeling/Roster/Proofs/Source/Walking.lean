import Mathlib.Data.Nat.Find
import Mathlib.Order.Bounds.Basic
import Mathlib.Order.WellFounded
import Roster.Proofs.Cache.Remembering
import Roster.Proofs.Source.Pursuit
import Roster.Source.Journey

namespace Roster.Source

/-! What is seen of a walk that is polled until its end. -/

/-- How often a page is asked for: until an answer is final, or until the budget is spent. -/
def attemptsOf (policy : RetryPolicy) (replies : Nat → Reply) : Nat :=
  let final := (List.range (policy.budget - 1)).find? fun earlier =>
    !isPassing (replies (earlier + 1)).page
  final.getD (policy.budget - 1) + 1

/-- What a page of a source comes to. -/
def verdict (policy : RetryPolicy) (script : Script) (page : UInt32) :
    Except SourceError SourcePage :=
  let attempts := attemptsOf policy (script page)
  conclusion page attempts (script page attempts).page

/-- Whether a walk ends with a page: the page fails, or it has no successor. -/
def isLast : Except SourceError SourcePage → Bool
  | .ok page => !page.hasNext
  | .error _ => true

namespace Action

@[simp] theorem isAsked_ofResult (result : Except SourceError SourcePage) :
    (ofResult result).isAsked = false := by
  cases result <;> rfl

/-- What was done besides the sending of requests. -/
def besides (trace : List Action) : List Action := trace.filter fun action => !action.isAsked

/-- Every request is sent while the fetch of its page is what was begun last. -/
def Prompted (trace : List Action) : Prop :=
  ∀ before fetch after, trace = before ++ asked fetch :: after →
    (besides before).getLast? = some (fetched fetch.page)

/-- One page of a walk. -/
def lap (source : UInt32 → Except SourceError SourcePage) (page : UInt32) : List Action :=
  [polled, fetched page, ofResult (source page)]

/-- The pages of a walk from the first on. -/
def laps (source : UInt32 → Except SourceError SourcePage) (count : Nat) : List Action :=
  (List.range count).flatMap fun before => lap source (.ofNat (before + 1))

/-- What so many polls after the last page come to. -/
def endings (polls : Nat) : List Action := (List.replicate polls [polled, ended]).flatten

end Action

/-- Polls and arrivals keep coming. -/
structure Fair (signals : Nat → Signal) : Prop where
  polls : ∀ time, ∃ later, time ≤ later ∧ ∃ now, signals later = .poll now
  arrivals : ∀ time, ∃ later, time ≤ later ∧ signals later = .arrive

/-- A client that remembers only what the source says. -/
structure Client.Truthful (client : Client) (policy : RetryPolicy) (script : Script) : Prop where
  retry : client.retry = policy
  memory : client.memo.entries.Sound fun entry =>
    verdict policy script entry.key = .ok entry.value

variable {policy : RetryPolicy} {script : Script}

theorem Persists.attemptsOf {replies : Nat → Reply} {earlier : Nat}
    (persists : Persists policy replies earlier)
    (final : earlier + 1 = policy.budget ∨ isPassing (replies (earlier + 1)).page = false) :
    attemptsOf policy replies = earlier + 1 := by
  have passing : ∀ before < earlier, (!isPassing (replies (before + 1)).page) = false :=
    fun before within => by rw [persists.passing _ before.succ_pos within]; rfl
  have left := persists.left
  rw [Source.attemptsOf]
  by_cases spent : earlier + 1 = policy.budget
  · have none : (List.range (policy.budget - 1)).find?
        (fun before => !isPassing (replies (before + 1)).page) = none := by
      rw [List.find?_eq_none]
      intro before within
      rw [passing before (by rw [List.mem_range] at within; omega)]
      nofun
    rw [none]
    dsimp only [Option.getD]
    omega
  · have found : (List.range (policy.budget - 1)).find?
        (fun before => !isPassing (replies (before + 1)).page) = some earlier := by
      rw [List.find?_range_eq_some]
      refine ⟨?_, List.mem_range.mpr (by omega), fun before within => ?_⟩
      · rw [final.resolve_left spent]
        rfl
      · rw [passing before within]
        rfl
    rw [found]
    rfl

/-- A fetch that ends comes to what the source says of its page. -/
theorem Persists.conclusion {page : UInt32} {earlier : Nat}
    (persists : Persists policy (script page) earlier)
    (final : earlier + 1 = policy.budget ∨ isPassing (script page (earlier + 1)).page = false) :
    conclusion page (earlier + 1) (script page (earlier + 1)).page = verdict policy script page := by
  rw [verdict, persists.attemptsOf final]

namespace Client.Truthful

variable {client : Client} {page : UInt32} {earlier : Nat}

theorem new (capacity : Nat) (ttl : Span) (policy : RetryPolicy) (script : Script) :
    (Client.new capacity ttl policy).Truthful policy script :=
  ⟨rfl, .new capacity ttl _⟩

theorem look (truthful : client.Truthful policy script) (page : UInt32) (now : Instant)
    {memo : Cache.Memo UInt32 SourcePage} {found? : Option SourcePage}
    (looks : client.memo.look page now = (memo, found?)) :
    (memo.entries.Sound fun entry => verdict policy script entry.key = .ok entry.value) ∧
      ∀ found, found? = some found → verdict policy script page = .ok found := by
  rw [Cache.Memo.look, Cache.Memo.withEntries] at looks
  by_cases poisoned : client.memo.poisoned = true
  · rw [if_pos poisoned] at looks
    cases looks
    exact ⟨truthful.memory.clear _, fun _ hit => by cases hit⟩
  · obtain ⟨entries, found, gets, sound, -, served, -⟩ := truthful.memory.get page now
    rw [if_neg poisoned, gets] at looks
    have spoken : ∀ value, found = some value → verdict policy script page = .ok value := by
      intro value hit
      obtain ⟨entry, said, sameKey, rfl, -⟩ := served value hit
      rw [← eq_of_beq sameKey]
      exact said
    cases found <;> cases looks <;> exact ⟨sound, spoken⟩

theorem keep (truthful : client.Truthful policy script) {found : SourcePage}
    (said : verdict policy script page = .ok found) (now : Instant) :
    (client.memo.keep page found now).entries.Sound fun entry =>
      verdict policy script entry.key = .ok entry.value := by
  rw [Cache.Memo.keep, Cache.Memo.withEntries]
  by_cases poisoned : client.memo.poisoned = true
  · rw [if_pos poisoned]
    exact truthful.memory.clear _
  · obtain ⟨entries, inserts, sound, -⟩ := truthful.memory.insert_apart page found now
    rw [if_neg poisoned, inserts]
    refine sound.mono fun entry kept => ?_
    rcases kept with ⟨old, -⟩ | ⟨same, rfl, -⟩
    · exact old
    · rwa [eq_of_beq same]

/-- A page that is not asked for is remembered as the source has said it. -/
theorem fetch (truthful : client.Truthful policy script) (page : UInt32) (now : Instant) :
    (client.fetch page now).1.Truthful policy script ∧
      ((client.fetch page now).2 = .ask ⟨page, 1⟩ ∨
        (client.fetch page now).2 = .done (verdict policy script page)) := by
  have fetched := client.fetch_fetched page now
  generalize client.fetch page now = result at fetched
  cases fetched with
  | remembered looks =>
      obtain ⟨memory, spoken⟩ := truthful.look page now looks
      exact ⟨⟨truthful.retry, memory⟩, .inr (by rw [spoken _ rfl])⟩
  | asked looks => exact ⟨⟨truthful.retry, (truthful.look page now looks).1⟩, .inl rfl⟩

theorem answer (truthful : client.Truthful policy script)
    (persists : Persists policy (script page) earlier) :
    let reply := script page (earlier + 1)
    let result := client.answer ⟨page, earlier + 1⟩ reply.page reply.draw reply.now
    result.1.Truthful policy script ∧
      (result.2 = .done (verdict policy script page) ∨
        ∃ span, result.2 = .pause span ⟨page, earlier + 1⟩ ∧
          Persists policy (script page) (earlier + 1)) := by
  intro reply result
  have answered := client.answer_answered ⟨page, earlier + 1⟩ reply
  change client.Answered ⟨page, earlier + 1⟩ reply result at answered
  obtain ⟨rfl, memory⟩ := truthful
  generalize result = result at answered
  cases answered with
  | settled settled keeps =>
      have said := persists.conclusion (persists.final settled)
      refine ⟨⟨rfl, ?_⟩, .inl (congrArg Fetch.Next.done said)⟩
      rw [keeps]
      cases answer : reply.page with
      | ok found =>
          change Source.conclusion page (earlier + 1) reply.page = _ at said
          rw [answer] at said
          exact keep ⟨rfl, memory⟩ said.symm reply.now
      | error => exact memory
  | postponed passing left =>
      exact ⟨⟨rfl, memory⟩, .inr ⟨_, rfl, persists.postponed passing left⟩⟩

theorem ask (truthful : client.Truthful policy script) (fetch : Fetch) :
    (client.ask fetch).1.Truthful policy script :=
  ⟨truthful.retry, truthful.memory⟩

end Client.Truthful

namespace Action

variable {trace : List Action} {source : UInt32 → Except SourceError SourcePage}

theorem besides_append (trace more : List Action) :
    besides (trace ++ more) = besides trace ++ besides more :=
  List.filter_append _ _

@[simp] theorem besides_snoc_asked (trace : List Action) (fetch : Fetch) :
    besides (trace ++ [asked fetch]) = besides trace := by
  rw [besides_append, besides, besides, List.filter_singleton]
  exact List.append_nil _

@[simp] theorem besides_snoc_ofResult (trace : List Action)
    (result : Except SourceError SourcePage) :
    besides (trace ++ [ofResult result]) = besides trace ++ [ofResult result] := by
  rw [besides_append]
  cases result <;> rfl

theorem Prompted.nil : Prompted [] := fun before _ _ split => by
  cases before <;> cases split

theorem Prompted.snoc (prompted : Prompted trace) {action : Action}
    (prompt : ∀ fetch, action = asked fetch →
      (besides trace).getLast? = some (fetched fetch.page)) : Prompted (trace ++ [action]) := by
  intro before fetch after split
  rcases List.eq_nil_or_concat after with rfl | ⟨rest, last, rfl⟩
  · obtain ⟨rfl, same⟩ := List.append_inj' split rfl
    exact prompt fetch (List.singleton_inj.mp same)
  · rw [List.concat_eq_append, ← List.cons_append, ← List.append_assoc] at split
    exact prompted before fetch rest (List.append_inj' split rfl).1

theorem Prompted.snoc_of_not_asked (prompted : Prompted trace) {action : Action}
    (other : action.isAsked = false) : Prompted (trace ++ [action]) :=
  prompted.snoc fun fetch asked => by subst asked; cases other

theorem laps_succ (source : UInt32 → Except SourceError SourcePage) (count : Nat) :
    laps source (count + 1) = laps source count ++ lap source (.ofNat (count + 1)) := by
  rw [laps, List.range_succ, List.flatMap_append]
  rfl

theorem laps_mono (source : UInt32 → Except SourceError SourcePage) {count more : Nat}
    (fewer : count ≤ more) : laps source count <+: laps source more := by
  induction more, fewer using Nat.le_induction with
  | base => exact List.prefix_rfl
  | succ more _ ih =>
      rw [laps_succ]
      exact ih.trans (List.prefix_append _ _)

theorem endings_succ (polls : Nat) : endings (polls + 1) = endings polls ++ [polled, ended] := by
  rw [endings, List.replicate_succ', List.flatten_append]
  rfl

end Action

/-! The stages of a walk. -/

/-- The number of the first page of a source that is the last of a walk. -/
structure Ends (source : UInt32 → Except SourceError SourcePage) (last : Nat) : Prop where
  least : IsLeast {number | 0 < number ∧ isLast (source (.ofNat number)) = true} last
  bounded : last < UInt32.size

open Roster.Source.Action in
/-- Where a walk stands, by the pages that are behind it, and what has been done so far. -/
inductive OnWay (policy : RetryPolicy) (script : Script) (last : Nat) :
    Position → List Action → Prop
  | ready {behind : Nat} (ahead : behind < last) :
      OnWay policy script last (.ready ⟨some (.ofNat (behind + 1))⟩)
        (laps (verdict policy script) behind)
  | through :
      OnWay policy script last (.ready ⟨none⟩) (laps (verdict policy script) last)
  | asked {behind earlier : Nat} (ahead : behind < last)
      (persists : Persists policy (script (.ofNat (behind + 1))) earlier) :
      OnWay policy script last
        (.asked ⟨some (.ofNat (behind + 1))⟩ ⟨.ofNat (behind + 1), earlier + 1⟩)
        (laps (verdict policy script) behind ++ [polled, fetched (.ofNat (behind + 1))])
  | paused {behind earlier : Nat} {span : Span} (ahead : behind < last)
      (persists : Persists policy (script (.ofNat (behind + 1))) (earlier + 1)) :
      OnWay policy script last
        (.paused ⟨some (.ofNat (behind + 1))⟩ ⟨.ofNat (behind + 1), earlier + 1⟩ span)
        (laps (verdict policy script) behind ++ [polled, fetched (.ofNat (behind + 1))])
  | finished {failure? : Option SourceError} {polls : Nat} :
      OnWay policy script last (.finished failure?)
        (laps (verdict policy script) last ++ endings polls)

/-- How many more events that a walk waits for it takes at most until it is finished. -/
def Position.remaining (policy : RetryPolicy) (last : Nat) : Position → Nat
  | .ready ⟨some page⟩ => (last + 1 - page.toNat) * (2 * policy.budget + 1) + 1
  | .ready ⟨none⟩ => 1
  | .asked _ fetch =>
    (last - fetch.page.toNat) * (2 * policy.budget + 1) + 2 * (policy.budget - fetch.attempt) + 3
  | .paused _ fetch _ =>
    (last - fetch.page.toNat) * (2 * policy.budget + 1) + 2 * (policy.budget - fetch.attempt) + 2
  | .finished _ => 0

/-- Whether a signal is the one that a walk waits for. -/
def Position.awaits : Position → Signal → Bool
  | .ready _, .poll _ => true
  | .asked .., .arrive => true
  | .paused .., .arrive => true
  | _, _ => false

namespace Ends

variable {source : UInt32 → Except SourceError SourcePage} {last : Nat}

theorem exists_of_isLast {page : UInt32} (positive : 0 < page)
    (stops : isLast (source page) = true) : ∃ last, Ends source last := by
  classical
  have number : 0 < page.toNat ∧ isLast (source (.ofNat page.toNat)) = true :=
    ⟨UInt32.lt_iff_toNat_lt.mp positive, by rwa [UInt32.ofNat_toNat]⟩
  have stops : ∃ number, 0 < number ∧ isLast (source (.ofNat number)) = true := ⟨_, number⟩
  refine ⟨Nat.find stops, ⟨Nat.find_spec stops, fun _ other => Nat.find_min' stops other⟩, ?_⟩
  exact Nat.lt_of_le_of_lt (Nat.find_min' stops number) page.toNat_lt

theorem toNat_ofNat (ends : Ends source last) {number : Nat} (within : number ≤ last) :
    (UInt32.ofNat number).toNat = number :=
  UInt32.toNat_ofNat_of_lt' (Nat.lt_of_le_of_lt within ends.bounded)

theorem isLast_iff (ends : Ends source last) {before : Nat} (ahead : before < last) :
    isLast (source (.ofNat (before + 1))) = true ↔ before + 1 = last := by
  refine ⟨fun stops => ?_, fun same => same ▸ ends.least.1.2⟩
  exact Nat.le_antisymm ahead (ends.least.2 ⟨before.succ_pos, stops⟩)

end Ends

open Roster.Source.Action in
/-- What has been done so far is the beginning of what is to be done. -/
theorem OnWay.within {last : Nat} {position : Position} {told : List Action}
    (onWay : OnWay policy script last position told) :
    ∃ polls, told <+: laps (verdict policy script) last ++ endings polls := by
  cases onWay with
  | ready ahead => exact ⟨0, (laps_mono _ (Nat.le_of_lt ahead)).trans (List.prefix_append _ _)⟩
  | through => exact ⟨0, List.prefix_append _ _⟩
  | asked ahead | paused ahead =>
      refine ⟨0, .trans ?_ ((laps_mono _ ahead).trans (List.prefix_append _ _))⟩
      rw [laps_succ, List.prefix_append_right_inj]
      exact ⟨[_], rfl⟩
  | finished => exact ⟨_, List.prefix_rfl⟩

/-- Where a walk goes on after a page has come, or has failed. -/
theorem OnWay.came (stream : Stream) (client : Client) {behind last : Nat}
    (ends : Ends (verdict policy script) last) (ahead : behind < last) :
    let position := (stream.proceed ⟨some (.ofNat (behind + 1))⟩
      (client, .done (verdict policy script (.ofNat (behind + 1))))).position
    OnWay policy script last position (Action.laps (verdict policy script) (behind + 1)) ∧
      position.remaining policy last ≤
        (last - (behind + 1)) * (2 * policy.budget + 1) + 1 := by
  have isLast_iff := ends.isLast_iff ahead
  cases came : verdict policy script (.ofNat (behind + 1)) with
  | ok page =>
      rw [came] at isLast_iff
      simp only [Stream.proceed, Walk.advance]
      by_cases more : page.hasNext = true
      · have between : behind + 1 ≠ last := fun same => by
          have alone := isLast_iff.mpr same
          rw [isLast, more] at alone
          cases alone
        rw [if_pos more, ← UInt32.ofNat_one, ← UInt32.ofNat_add]
        refine ⟨.ready (by omega), ?_⟩
        rw [Position.remaining, ends.toNat_ofNat (by omega), Nat.add_sub_add_right]
      · have same : behind + 1 = last :=
          isLast_iff.mp (by rw [isLast, Bool.eq_false_iff.mpr more]; rfl)
        rw [if_neg more, same]
        exact ⟨.through, Nat.le_add_left 1 _⟩
  | error error =>
      rw [came] at isLast_iff
      have same : behind + 1 = last := isLast_iff.mp rfl
      have unpolled : Action.endings 0 = [] := rfl
      refine ⟨?_, Nat.zero_le _⟩
      rw [same, ← List.append_nil (Action.laps _ last), ← unpolled]
      exact .finished

namespace Journey

open Roster.Source.Action

structure Sound (policy : RetryPolicy) (script : Script) (last : Nat) (journey : Journey) :
    Prop where
  truthful : journey.stream.client.Truthful policy script
  onWay : OnWay policy script last journey.stream.position (besides journey.trace)
  prompted : Prompted journey.trace

variable {journey : Journey} {last : Nat}

section Fetching

variable (journey) {behind : Nat} {client : Client} (ahead : behind < last)
  (truthful : client.Truthful policy script)
  (told : besides journey.trace =
    laps (verdict policy script) behind ++ [polled, fetched (.ofNat (behind + 1))])
  (prompted : Prompted journey.trace)

include ahead truthful told prompted

/-- A request is sent for the page that is fetched. -/
theorem Sound.asks {earlier : Nat}
    (persists : Persists policy (script (.ofNat (behind + 1))) earlier) :
    (journey.proceed ⟨some (.ofNat (behind + 1))⟩
      (client, .ask ⟨.ofNat (behind + 1), earlier + 1⟩)).Sound policy script last := by
  refine ⟨truthful, ?_, prompted.snoc fun fetch asks => ?_⟩
  · change OnWay policy script last (.asked _ _) (besides (journey.trace ++ [asked _]))
    rw [besides_snoc_asked, told]
    exact .asked ahead persists
  · cases asks
    rw [told]
    exact List.getLast?_append_cons _ _ _

/-- The page that is fetched has come, or has failed. -/
theorem Sound.came (ends : Ends (verdict policy script) last) :
    let journey' := journey.proceed ⟨some (.ofNat (behind + 1))⟩
      (client, .done (verdict policy script (.ofNat (behind + 1))))
    journey'.Sound policy script last ∧ journey'.stream.position.remaining policy last ≤
      (last - (behind + 1)) * (2 * policy.budget + 1) + 1 := by
  obtain ⟨onWay, fewer⟩ := OnWay.came journey.stream client ends ahead
  have told' : besides (journey.trace ++ [ofResult (verdict policy script (.ofNat (behind + 1)))]) =
      laps (verdict policy script) (behind + 1) := by
    rw [besides_snoc_ofResult, told, laps_succ, List.append_assoc]
    rfl
  have client' := journey.stream.client_proceed ⟨some (.ofNat (behind + 1))⟩
    (client, .done (verdict policy script (.ofNat (behind + 1))))
  exact ⟨⟨client' ▸ truthful, told' ▸ onWay, prompted.snoc_of_not_asked (isAsked_ofResult _)⟩,
    fewer⟩

end Fetching

/-- There is nothing more, as often as it is polled. -/
theorem Sound.ending {client : Client} (truthful : client.Truthful policy script)
    {yielded : List SourcePage} {failure? : Option SourceError} {trace : List Action} {polls : Nat}
    (told : besides trace = laps (verdict policy script) last ++ endings polls)
    (prompted : Prompted trace) :
    Sound policy script last ⟨⟨client, yielded, .finished failure?⟩, trace ++ [polled, ended]⟩ := by
  have told' : besides (trace ++ [polled, ended]) =
      laps (verdict policy script) last ++ endings (polls + 1) := by
    rw [besides_append, told, endings_succ, List.append_assoc]
    rfl
  have polled : Prompted (trace ++ [polled]) := prompted.snoc_of_not_asked rfl
  refine ⟨truthful, told' ▸ .finished, ?_⟩
  rw [← List.singleton_append, ← List.append_assoc]
  exact polled.snoc_of_not_asked rfl

/-- A signal leaves a walk where it stands, unless it is the one that the walk waits for. -/
theorem position_hear {signal : Signal}
    (unawaited : journey.stream.position.awaits signal = false) :
    (journey.hear script signal).stream.position = journey.stream.position := by
  obtain ⟨⟨client, yielded, position⟩, trace⟩ := journey
  cases signal with
  | others => rfl
  | poll | arrive => cases position <;> first | rfl | cases unawaited

theorem Sound.poll (ends : Ends (verdict policy script) last)
    (sound : journey.Sound policy script last) (now : Instant) :
    let journey' := journey.hear script (.poll now)
    journey'.Sound policy script last ∧
      (journey.stream.position.awaits (.poll now) = true →
        journey'.stream.position.remaining policy last <
          journey.stream.position.remaining policy last) := by
  obtain ⟨⟨client, yielded, position⟩, trace⟩ := journey
  obtain ⟨truthful, onWay, prompted⟩ := sound
  dsimp only at truthful onWay prompted
  generalize told : besides trace = actions at onWay
  cases onWay with
  | @ready behind ahead =>
      obtain ⟨truthful', next⟩ := truthful.fetch (.ofNat (behind + 1)) now
      have told' : besides (trace ++ [polled, fetched (.ofNat (behind + 1))]) =
          laps (verdict policy script) behind ++ [polled, fetched (.ofNat (behind + 1))] := by
        rw [besides_append, told]
        rfl
      have prompted' : Prompted (trace ++ [polled, fetched (.ofNat (behind + 1))]) := by
        rw [← List.singleton_append, ← List.append_assoc]
        exact (prompted.snoc_of_not_asked rfl).snoc_of_not_asked rfl
      have number : (UInt32.ofNat (behind + 1)).toNat = behind + 1 := ends.toNat_ofNat ahead
      have laps_left : last + 1 - (behind + 1) = last - (behind + 1) + 1 := by omega
      have before : Position.remaining policy last (.ready ⟨some (.ofNat (behind + 1))⟩) =
          (last - (behind + 1)) * (2 * policy.budget + 1) + (2 * policy.budget + 1) + 1 := by
        rw [Position.remaining, number, laps_left, Nat.succ_mul]
      rw [hear]
      dsimp only
      rw [before]
      generalize client.fetch (.ofNat (behind + 1)) now = result at truthful' next
      obtain ⟨after, comes⟩ := result
      rcases next with rfl | rfl
      · refine ⟨.asks _ ahead truthful' told' prompted' (.start policy _), fun _ => ?_⟩
        have budget := policy.budget_pos
        change Position.remaining policy last (.asked _ ⟨.ofNat (behind + 1), 1⟩) < _
        rw [Position.remaining, number]
        dsimp only
        omega
      · obtain ⟨sound, fewer⟩ :=
          Sound.came ⟨⟨client, yielded, _⟩, _⟩ ahead truthful' told' prompted' ends
        exact ⟨sound, fun _ => Nat.lt_of_le_of_lt fewer (by omega)⟩
  | through =>
      have unpolled : endings 0 = [] := rfl
      rw [← List.append_nil (laps _ last), ← unpolled] at told
      exact ⟨.ending truthful told prompted, fun _ => Nat.one_pos⟩
  | asked ahead persists => exact ⟨⟨truthful, told ▸ .asked ahead persists, prompted⟩, nofun⟩
  | paused ahead persists => exact ⟨⟨truthful, told ▸ .paused ahead persists, prompted⟩, nofun⟩
  | finished => exact ⟨.ending truthful told prompted, nofun⟩

theorem Sound.arrive (ends : Ends (verdict policy script) last)
    (sound : journey.Sound policy script last) :
    let journey' := journey.hear script .arrive
    journey'.Sound policy script last ∧
      (journey.stream.position.awaits .arrive = true →
        journey'.stream.position.remaining policy last <
          journey.stream.position.remaining policy last) := by
  obtain ⟨⟨client, yielded, position⟩, trace⟩ := journey
  obtain ⟨truthful, onWay, prompted⟩ := sound
  dsimp only at truthful onWay prompted
  generalize told : besides trace = actions at onWay
  cases onWay with
  | @asked behind earlier ahead persists =>
      obtain ⟨truthful', next⟩ := truthful.answer persists
      have number : (UInt32.ofNat (behind + 1)).toNat = behind + 1 := ends.toNat_ofNat ahead
      rw [hear]
      dsimp only
      generalize client.answer _ _ _ _ = result at truthful' next
      obtain ⟨after, comes⟩ := result
      rcases next with rfl | ⟨span, rfl, persists'⟩
      · obtain ⟨sound, fewer⟩ :=
          Sound.came ⟨⟨client, yielded, _⟩, trace⟩ ahead truthful' told prompted ends
        refine ⟨sound, fun _ => Nat.lt_of_le_of_lt fewer ?_⟩
        rw [Position.remaining, number]
        dsimp only
        omega
      · refine ⟨⟨truthful', ?_, ?_⟩, fun _ => Nat.lt_succ_self _⟩
        · change OnWay policy script last (.paused _ _ span) (besides (trace ++ []))
          rw [List.append_nil, told]
          exact .paused ahead persists'
        · change Prompted (trace ++ [])
          rwa [List.append_nil]
  | @paused behind earlier span ahead persists =>
      have client' := truthful.ask ⟨.ofNat (behind + 1), earlier + 1⟩
      refine ⟨.asks _ ahead client' told prompted persists, fun _ => ?_⟩
      have left := persists.left
      change Position.remaining policy last (.asked _ ⟨.ofNat (behind + 1), earlier + 1 + 1⟩) <
        Position.remaining policy last (.paused _ ⟨.ofNat (behind + 1), earlier + 1⟩ span)
      rw [Position.remaining, Position.remaining]
      dsimp only
      omega
  | ready ahead => exact ⟨⟨truthful, told ▸ .ready ahead, prompted⟩, nofun⟩
  | through => exact ⟨⟨truthful, told ▸ .through, prompted⟩, nofun⟩
  | finished => exact ⟨⟨truthful, told ▸ .finished, prompted⟩, nofun⟩

theorem Sound.hear (ends : Ends (verdict policy script) last)
    (sound : journey.Sound policy script last) {signal : Signal}
    (apt : ∀ client, signal = .others client → client.Truthful policy script) :
    let journey' := journey.hear script signal
    journey'.Sound policy script last ∧
      (journey.stream.position.awaits signal = true →
        journey'.stream.position.remaining policy last <
          journey.stream.position.remaining policy last) := by
  cases signal with
  | poll now => exact sound.poll ends now
  | arrive => exact sound.arrive ends
  | others client =>
      refine ⟨⟨apt client rfl, sound.onWay, sound.prompted⟩, fun awaited => ?_⟩
      cases position : journey.stream.position <;> rw [position] at awaited <;> cases awaited

theorem Sound.start (ends : Ends (verdict policy script) last) {client : Client}
    (truthful : client.Truthful policy script) :
    Sound policy script last { stream := { client } } :=
  ⟨truthful, .ready ends.least.1.1, .nil⟩

section Run

variable {client : Client} {signals : Nat → Signal}
  (ends : Ends (verdict policy script) last) (truthful : client.Truthful policy script)
  (apt : ∀ time other, signals time = .others other → other.Truthful policy script)

include ends truthful apt in

theorem sound_after (time : Nat) : (after script client signals time).Sound policy script last := by
  induction time with
  | zero => exact .start ends truthful
  | succ time ih => exact (ih.hear ends (apt time)).1

/-- A walk stays where it stands until the signal comes that it waits for. -/
theorem position_after {script : Script} {client : Client} {time later : Nat}
    (follows : time ≤ later)
    (unawaited : ∀ between, time ≤ between → between < later →
      (after script client signals time).stream.position.awaits (signals between) = false) :
    (after script client signals later).stream.position =
      (after script client signals time).stream.position := by
  induction later, follows using Nat.le_induction with
  | base => rfl
  | succ later follows ih =>
      have same := ih fun between since before => unawaited between since (Nat.lt_succ_of_lt before)
      have idle := unawaited later follows later.lt_succ_self
      rw [← same] at idle
      exact (position_hear idle).trans same

theorem exists_awaited (fair : Fair signals) (position : Position) (time : Nat) :
    (∃ failure?, position = .finished failure?) ∨
      ∃ later, time ≤ later ∧ position.awaits (signals later) = true := by
  obtain ⟨poll, pollLater, now, polls⟩ := fair.polls time
  obtain ⟨arrival, arrivalLater, arrives⟩ := fair.arrivals time
  cases position with
  | ready => exact .inr ⟨poll, pollLater, by rw [polls]; rfl⟩
  | asked | paused => exact .inr ⟨arrival, arrivalLater, by rw [arrives]; rfl⟩
  | finished failure? => exact .inl ⟨failure?, rfl⟩

include ends truthful apt in

/-- A walk that is not finished comes nearer to its end. -/
theorem advances (fair : Fair signals) (time : Nat) :
    (∃ failure?, (after script client signals time).stream.position = .finished failure?) ∨
      ∃ later, (after script client signals later).stream.position.remaining policy last <
        (after script client signals time).stream.position.remaining policy last := by
  classical
  refine (exists_awaited fair _ time).imp_right fun awaited => ?_
  obtain ⟨later, ⟨since, awaits⟩, first⟩ : ∃ later, (time ≤ later ∧
      (after script client signals time).stream.position.awaits (signals later) = true) ∧
        ∀ between < later, ¬(time ≤ between ∧
          (after script client signals time).stream.position.awaits (signals between) = true) :=
    ⟨Nat.find awaited, Nat.find_spec awaited, fun _ => Nat.find_min awaited⟩
  have same : (after script client signals later).stream.position =
      (after script client signals time).stream.position :=
    position_after since fun between since before =>
      Bool.eq_false_iff.mpr fun awaits => first between before ⟨since, awaits⟩
  have sound := sound_after ends truthful apt later
  rw [← same] at awaits
  exact ⟨later + 1, same ▸ (sound.hear ends (apt later)).2 awaits⟩

include ends truthful apt in

theorem finishes (fair : Fair signals) (time : Nat) :
    ∃ later failure?, (after script client signals later).stream.position =
      .finished failure? := by
  generalize left : (after script client signals time).stream.position.remaining policy last = steps
  induction steps using Nat.strong_induction_on generalizing time with
  | h steps ih =>
      rcases advances ends truthful apt fair time with ⟨failure?, finished⟩ | ⟨later, nearer⟩
      · exact ⟨time, failure?, finished⟩
      · exact ih _ (left ▸ nearer) later rfl

include ends truthful apt in

/-- After its last item a walk says that there is nothing more. -/
theorem concludes (fair : Fair signals) :
    ∃ time, laps (verdict policy script) last ++ [polled, ended] <+:
      besides (after script client signals time).trace := by
  obtain ⟨time, failure?, finished⟩ := finishes ends truthful apt fair 0
  obtain ⟨later, since, now, polls⟩ := fair.polls time
  have stays : (after script client signals later).stream.position = .finished failure? :=
    finished ▸ position_after since fun between _ _ => by rw [finished]; rfl
  have sound := sound_after ends truthful apt later
  refine ⟨later + 1, ?_⟩
  rw [after, polls, hear, stays]
  have onWay := sound.onWay
  rw [stays] at onWay
  generalize told : besides (after script client signals later).trace = actions at onWay
  cases onWay with
  | @finished _ before =>
      rw [note, besides_append, told, List.append_assoc, List.prefix_append_right_inj]
      change [polled, ended] <+: endings before ++ [polled, ended]
      rw [← endings_succ]
      exact ⟨endings before, rfl⟩

end Run

end Journey

/-- A walk yields one page after the other up to the last, each when it is polled for it, and fetches
no page but for that. -/
theorem Journey.after_walks (policy : RetryPolicy) (script : Script)
    (stops : ∃ page, 0 < page ∧ isLast (verdict policy script page) = true) :
    ∃ last, Ends (verdict policy script) last ∧
      ∀ (client : Client) (signals : Nat → Signal), client.Truthful policy script →
        (∀ time other, signals time = .others other → other.Truthful policy script) →
        let trace := fun time => (after script client signals time).trace
        (∀ time, Action.Prompted (trace time) ∧
          ∃ polls, Action.besides (trace time) <+:
            Action.laps (verdict policy script) last ++ Action.endings polls) ∧
        (Fair signals → ∃ time, Action.laps (verdict policy script) last ++ [.polled, .ended] <+:
          Action.besides (trace time)) := by
  obtain ⟨page, positive, stops⟩ := stops
  obtain ⟨last, ends⟩ := Ends.exists_of_isLast positive stops
  refine ⟨last, ends, fun client signals truthful apt => ⟨fun time => ?_, fun fair => ?_⟩⟩
  · have sound := sound_after ends truthful apt time
    exact ⟨sound.prompted, sound.onWay.within⟩
  · exact concludes ends truthful apt fair

/-! Two pages, the first of which comes at the second attempt only, and the second not at all. -/

def stumbling : Script := fun page attempt =>
  if page = 1 then
    if attempt = 1 then ⟨⟨0⟩, 7, .error (.transient 1 "busy" none)⟩
    else ⟨⟨0⟩, 7, .ok { info := { next := some "?page=2" } }⟩
  else ⟨⟨0⟩, 7, .error (.fatal page (some 404) "gone")⟩

def alternating (time : Nat) : Signal := if time % 2 = 0 then .poll ⟨time⟩ else .arrive

theorem Journey.after_walks_stumbling :
    let policy : RetryPolicy := { maxAttempts := 2 }
    let client := Client.new 64 (.ofSecs 60) policy
    Fair alternating ∧ ∃ time,
      [.polled, .fetched 1, .yielded { info := { next := some "?page=2" } }, .polled, .fetched 2,
        .failed (.fatal 2 (some 404) "gone"), .polled, .ended] <+:
        Action.besides (after stumbling client alternating time).trace := by
  intro policy client
  have fair : Fair alternating := by
    refine ⟨fun time => ⟨2 * time, by omega, ⟨2 * time⟩, ?_⟩, fun time =>
      ⟨2 * time + 1, by omega, ?_⟩⟩
    · exact if_pos (by omega)
    · exact if_neg (by omega)
  have stops : isLast (verdict policy stumbling 2) = true := by decide +kernel
  obtain ⟨last, ends, walks⟩ := after_walks policy stumbling ⟨2, by decide, stops⟩
  have two : last = 2 := by
    have first : isLast (verdict policy stumbling (.ofNat 1)) = false := by decide +kernel
    have least := ends.least.2 ⟨Nat.two_pos, stops⟩
    have positive := ends.least.1.1
    have other : last ≠ 1 := fun one => by
      have stops' := one ▸ ends.least.1.2
      rw [first] at stops'
      cases stops'
    omega
  subst two
  have apt : ∀ time other, alternating time = .others other → other.Truthful policy stumbling := by
    intro time other others
    rw [alternating] at others
    split at others <;> cases others
  have trace := (walks client alternating (.new 64 (.ofSecs 60) policy stumbling) apt).2 fair
  have laps : Action.laps (verdict policy stumbling) 2 =
      [.polled, .fetched 1, .yielded { info := { next := some "?page=2" } }, .polled, .fetched 2,
        .failed (.fatal 2 (some 404) "gone")] := by
    decide +kernel
  rw [laps] at trace
  exact ⟨fair, trace⟩

end Roster.Source
