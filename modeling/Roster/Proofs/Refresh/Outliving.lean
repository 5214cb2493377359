import Mathlib.Data.List.Induction
import Roster.Proofs.Cache.Remembering
import Roster.Proofs.Refresh.Duty
import Roster.Proofs.Settings

namespace Roster.Refresh

/-! A page that is taken from memory was put there by the same cycle, unless its deposit was late: so
close to the next tick that the tick falls into the lifetime of the deposit. Nothing keeps a slow
cycle from that, for the settings compare the lifetime with the interval between two ticks only. -/

namespace Cycle

variable {L : Type}

/-- What comes in at this moment makes a cycle look or keep at this moment. -/
theorem usage_at (cycle : Cycle L) (answer : Answer L) (now : Instant) :
    (∃ page, cycle.usage (answer.at now) = .looks page now) ∨
      (∃ page content, cycle.usage (answer.at now) = .keeps page content now) ∨
        cycle.usage (answer.at now) = .idle := by
  unfold usage
  split
  · rename_i page moment same
    cases answer <;> cases same
    exact .inl ⟨page, rfl⟩
  · rename_i fetch content draw moment same
    cases answer <;> cases same
    exact .inr (.inl ⟨_, content, rfl⟩)
  · exact .inr (.inr rfl)

end Cycle

namespace Post

variable {L : Type} {post : Post L} {cycle : Cycle L}

theorem ticker?_after (under_way : post.cycle? = some cycle) (step : Cycle.Step L) :
    (post.after step).ticker? = post.ticker? := by
  unfold cycle? at under_way
  split at under_way
  · cases step <;> rfl
  · cases step <;> rfl
  · cases under_way

/-- Only a worker that runs a cycle goes on to run one. -/
theorem refreshing_of_after {step : Cycle.Step L} {ticker : Ticker} {next : Cycle L}
    (under_way : post.cycle? = some cycle)
    (goes : post.after step = .working (.refreshing ticker next)) :
    post = .working (.refreshing ticker cycle) := by
  unfold cycle? at under_way
  split at under_way
  · cases step <;> cases goes
  · cases under_way
    cases step <;> cases goes
    rfl
  · cases under_way

end Post

namespace Worker

variable {L : Type}

theorem start_eq_some {now : Instant} {interval : Span} {worker : Worker L}
    (starts : start now interval = some worker) :
    worker = .waiting ⟨⟨now.nanos + interval.nanos⟩, interval⟩ := by
  unfold start Ticker.start Instant.after? at starts
  split at starts
  · cases starts
  · split at starts <;> cases starts
    rfl

theorem isDue_of_ready {ticker : Ticker} {signal : Signal} {now : Instant}
    (ready : .tick ∈ ready ticker signal now) : ticker.next.nanos ≤ now.nanos := by
  unfold Worker.ready at ready
  rcases List.mem_append.mp ready with told | due
  · split at told <;> simp at told
  · split at due
    · rename_i isDue
      exact of_decide_eq_true isDue
    · cases due

end Worker

/-- Where a serving comes from. If that is an earlier cycle, then it is one of the worker and its
deposit was late. -/
structure Serving.Explained (serving : Serving) (lifetime : Span) (deposit : Deposit) : Prop where
  source : serving.source = some deposit
  content : deposit.content = serving.content
  fresh : serving.moment.nanos ≤ deposit.made.nanos + lifetime.nanos
  late : deposit.cycle = serving.cycle ∨
    0 < deposit.cycle ∧ deposit.cycle < serving.cycle ∧
      deposit.due.nanos ≤ deposit.made.nanos + lifetime.nanos

namespace Duty

variable {L : Type} {duty : Duty L}

/-- Before the tick that follows a deposit no other cycle begins. -/
structure Keeps (duty : Duty L) (deposit : Deposit) : Prop where
  begun : deposit.cycle ≤ duty.begun
  past : deposit.made.nanos ≤ duty.now.nanos
  awaited : deposit.due.nanos ≤ duty.now.nanos ∨
    deposit.cycle = duty.begun ∧
      (duty.post = .working .stopped ∨ deposit.due.nanos ≤ duty.due.nanos)
  seeded : deposit.cycle = 0 →
    deposit.due.nanos = deposit.made.nanos + duty.settings.refresh.interval.nanos

theorem due_eq {after : Duty L} (settings : after.settings = duty.settings)
    (now : after.now = duty.now) (ticker : after.post.ticker? = duty.post.ticker?) :
    after.due = duty.due := by
  rw [due, due, settings, now, ticker]

/-- A step after which the same tick is awaited. -/
theorem Keeps.onward {after : Duty L} {deposit : Deposit} (keeps : duty.Keeps deposit)
    (settings : after.settings = duty.settings) (begun : after.begun = duty.begun)
    (now : after.now = duty.now)
    (awaits : after.post = .working .stopped ∨ duty.post ≠ .working .stopped ∧ after.due = duty.due) :
    after.Keeps deposit where
  begun := begun ▸ keeps.begun
  past := now ▸ keeps.past
  awaited := by
    rw [now, begun]
    refine keeps.awaited.imp_right fun ⟨own, awaited⟩ => ⟨own, ?_⟩
    rcases awaits with stopped | ⟨works, due⟩
    · exact .inl stopped
    · exact .inr (due ▸ awaited.resolve_left works)
  seeded := settings ▸ keeps.seeded

theorem post_note (duty : Duty L) (usage : Cycle.Usage) :
    (duty.note usage).settings = duty.settings ∧ (duty.note usage).begun = duty.begun ∧
      (duty.note usage).now = duty.now ∧ (duty.note usage).post = duty.post := by
  unfold note
  split
  · split <;> exact ⟨rfl, rfl, rfl, rfl⟩
  · exact ⟨rfl, rfl, rfl, rfl⟩
  · exact ⟨rfl, rfl, rfl, rfl⟩

theorem latest_keeps (page : UInt32) (content : SourcePage) (now : Instant) :
    (fun other => ((duty.note (.keeps page content now)).last? other).map fun deposit =>
        (deposit.content, deposit.made)) =
      Function.update (fun other => (duty.last? other).map fun deposit =>
        (deposit.content, deposit.made)) page (some (content, now)) := by
  funext other
  by_cases same : page = other
  · rw [same, Function.update_self, last?, note, List.find?_cons_of_pos (by simp)]
    rfl
  · rw [Function.update_of_ne (Ne.symm same), last?, note, List.find?_cons_of_neg (by simpa)]
    rfl

structure Tended (duty : Duty L) : Prop where
  faithful : duty.replica.client.memo.Faithful fun page =>
    (duty.last? page).map fun deposit => (deposit.content, deposit.made)
  lifetime : duty.replica.client.memo.entries.ttl = duty.settings.source.cacheTtl
  counted : ∀ ticker cycle, duty.post = .working (.refreshing ticker cycle) → 0 < duty.begun
  deposits : ∀ deposit ∈ duty.deposits, duty.Keeps deposit
  servings : ∀ serving ∈ duty.servings,
    ∃ deposit ∈ duty.deposits, serving.Explained duty.settings.source.cacheTtl deposit

theorem tended_start (settings : Settings) (now : Instant) :
    (start settings now : Duty L).Tended where
  faithful := .new ..
  lifetime := rfl
  counted := nofun
  deposits := nofun
  servings := nofun

namespace Tended

/-- A step that leaves the memory and the notes alone. -/
theorem of_unnoted (tended : duty.Tended) {after : Duty L} (settings : after.settings = duty.settings)
    (memo : after.replica.client.memo = duty.replica.client.memo)
    (deposits : after.deposits = duty.deposits) (servings : after.servings = duty.servings)
    (counted : ∀ ticker cycle, after.post = .working (.refreshing ticker cycle) → 0 < after.begun)
    (keeps : ∀ deposit, duty.Keeps deposit → after.Keeps deposit) : after.Tended where
  faithful := by
    simp only [memo, last?, deposits]
    exact tended.faithful
  lifetime := by
    rw [memo, settings]
    exact tended.lifetime
  counted := counted
  deposits deposit member := keeps deposit (tended.deposits deposit (deposits ▸ member))
  servings := by
    rw [servings, settings, deposits]
    exact tended.servings

theorem wait (tended : duty.Tended) (nanos : Nat) : (duty.wait nanos).Tended := by
  refine tended.of_unnoted rfl rfl rfl rfl tended.counted fun deposit keeps => ?_
  have later : duty.due.nanos ≤ (duty.wait nanos).due.nanos := by
    unfold due Duty.wait
    cases duty.post.ticker? with
    | none =>
        dsimp only
        omega
    | some ticker => exact Nat.le_refl _
  refine ⟨keeps.begun, Nat.le_add_right_of_le keeps.past, ?_, keeps.seeded⟩
  rcases keeps.awaited with passed | ⟨own, stopped | awaited⟩
  · exact .inl (Nat.le_add_right_of_le passed)
  · exact .inr ⟨own, .inl stopped⟩
  · exact .inr ⟨own, .inr (Nat.le_trans awaited later)⟩

/-- The page that is looked for is served from the last deposit, if that is fresh. -/
theorem servings_looks (tended : duty.Tended) (accepted : duty.settings.Accepted) (page : UInt32) :
    ∀ serving ∈ (duty.note (.looks page duty.now)).servings,
      ∃ deposit ∈ duty.deposits, serving.Explained duty.settings.source.cacheTtl deposit := by
  obtain ⟨-, -, served⟩ := tended.faithful.look page duty.now
  rw [note]
  split
  · rename_i content found
    intro serving member
    rcases List.mem_cons.mp member with rfl | old
    · obtain ⟨made, latest, fresh⟩ := served content found
      obtain ⟨deposit, last, same⟩ := Option.map_eq_some_iff.mp latest
      cases same
      have stored := List.mem_of_find?_eq_some last
      have keeps := tended.deposits deposit stored
      have moment : duty.now.nanos ≤ deposit.made.nanos + duty.settings.source.cacheTtl.nanos := by
        rw [tended.lifetime, ← Bool.not_eq_true, Instant.outlives_iff] at fresh
        omega
      refine ⟨deposit, stored, last, rfl, moment, ?_⟩
      rcases keeps.awaited with passed | ⟨own, -⟩
      · rcases Nat.lt_or_eq_of_le keeps.begun with earlier | own
        · have late := Nat.le_trans passed moment
          refine .inr ⟨Nat.pos_of_ne_zero fun zero => ?_, earlier, late⟩
          -- the worker's first tick lies beyond the lifetime of what the seed has left
          have due := keeps.seeded zero
          have short := Span.lt_def.mp accepted.cacheTtl_lt
          omega
        · exact .inl own
      · exact .inl own
    · exact tended.servings serving old
  · exact tended.servings

/-- A deposit that is made now is due at the next tick. -/
theorem keeps_deposit (tended : duty.Tended) {cycle : Cycle L}
    (under_way : duty.post.cycle? = some cycle) (page : UInt32) (content : SourcePage) :
    duty.Keeps ⟨page, content, duty.begun, duty.now, duty.due⟩ where
  begun := Nat.le_refl _
  past := Nat.le_refl _
  awaited := .inr ⟨rfl, .inr (Nat.le_refl _)⟩
  seeded none := by
    dsimp only at none ⊢
    rw [due]
    cases posted : duty.post with
    | seeding | seeded => rfl
    | working worker =>
        rw [posted] at under_way
        cases worker with
        | waiting | stopped => cases under_way
        | refreshing ticker cycle =>
            have begun := tended.counted ticker cycle posted
            omega

section Note

variable (tended : duty.Tended) (cycle : Cycle L) (answer : Cycle.Answer L)
include tended

theorem faithful_note :
    ((cycle.usage (answer.at duty.now)).apply duty.replica.client.memo).Faithful (fun page =>
      ((duty.note (cycle.usage (answer.at duty.now))).last? page).map fun deposit =>
        (deposit.content, deposit.made)) ∧
      ((cycle.usage (answer.at duty.now)).apply duty.replica.client.memo).entries.ttl =
        duty.settings.source.cacheTtl := by
  rcases cycle.usage_at answer duty.now with ⟨page, looks⟩ | ⟨page, content, keeps⟩ | idle
  · obtain ⟨faithful, ttl, -⟩ := tended.faithful.look page duty.now
    rw [looks]
    refine ⟨?_, ttl.trans tended.lifetime⟩
    rw [note]
    split <;> exact faithful
  · obtain ⟨faithful, ttl⟩ := tended.faithful.keep page content duty.now
    rw [keeps]
    refine ⟨?_, ttl.trans tended.lifetime⟩
    rw [latest_keeps]
    exact faithful
  · rw [idle]
    exact ⟨tended.faithful, tended.lifetime⟩

theorem deposits_note (under_way : duty.post.cycle? = some cycle) :
    ∀ deposit ∈ (duty.note (cycle.usage (answer.at duty.now))).deposits, duty.Keeps deposit := by
  rcases cycle.usage_at answer duty.now with ⟨page, looks⟩ | ⟨page, content, keeps⟩ | idle
  · rw [looks, note]
    split <;> exact tended.deposits
  · rw [keeps]
    intro deposit member
    rcases List.mem_cons.mp member with rfl | old
    · exact tended.keeps_deposit under_way page content
    · exact tended.deposits deposit old
  · rw [idle]
    exact tended.deposits

theorem servings_note (accepted : duty.settings.Accepted) :
    ∀ serving ∈ (duty.note (cycle.usage (answer.at duty.now))).servings,
      ∃ deposit ∈ (duty.note (cycle.usage (answer.at duty.now))).deposits,
        serving.Explained duty.settings.source.cacheTtl deposit := by
  rcases cycle.usage_at answer duty.now with ⟨page, looks⟩ | ⟨page, content, keeps⟩ | idle
  · have served := tended.servings_looks accepted page
    have deposits : (duty.note (.looks page duty.now)).deposits = duty.deposits := by
      rw [note]
      split <;> rfl
    rw [looks, deposits]
    exact served
  · rw [keeps]
    intro serving member
    obtain ⟨deposit, stored, explained⟩ := tended.servings serving member
    exact ⟨deposit, List.mem_cons_of_mem _ stored, explained⟩
  · rw [idle]
    exact tended.servings

end Note

theorem proceed (tended : duty.Tended) (accepted : duty.settings.Accepted) {cycle : Cycle L}
    (under_way : duty.post.cycle? = some cycle) (answer : Cycle.Answer L) :
    (duty.proceed cycle (answer.at duty.now)).Tended := by
  rw [Duty.proceed]
  split
  · rename_i replica step takes
    obtain ⟨settings, begun, now, -⟩ := duty.post_note (cycle.usage (answer.at duty.now))
    obtain ⟨faithful, lifetime⟩ := tended.faithful_note cycle answer
    have memo := Cycle.memo_take? takes
    have keeps : ∀ deposit, duty.Keeps deposit →
        { duty.note (cycle.usage (answer.at duty.now)) with
          replica, post := duty.post.after step : Duty L }.Keeps deposit := by
      intro deposit keeps
      refine keeps.onward settings begun now (.inr ⟨?_, ?_⟩)
      · intro stopped
        rw [stopped] at under_way
        cases under_way
      · exact due_eq settings now (Post.ticker?_after under_way step)
    exact {
      faithful := by
        rw [memo]
        exact faithful
      lifetime := by
        rw [memo, settings]
        exact lifetime
      counted := fun ticker cycle goes => by
        change 0 < (duty.note _).begun
        rw [begun]
        exact tended.counted ticker _ (Post.refreshing_of_after under_way goes)
      deposits := fun deposit member =>
        keeps deposit (tended.deposits_note cycle answer under_way deposit member)
      servings := by
        rw [settings]
        exact tended.servings_note cycle answer accepted }
  · exact tended

theorem enlist (tended : duty.Tended) : (duty.step .enlist).Tended := by
  rw [step]
  split
  · rename_i worker seeded starts
    split
    · obtain rfl := Worker.start_eq_some starts
      have idle (first ticker : Ticker) (cycle : Cycle L)
          (refreshing : (.working (.waiting first) : Post L) =
            .working (.refreshing ticker cycle)) : 0 < duty.begun := by
        cases refreshing
      refine tended.of_unnoted rfl rfl rfl rfl (idle _) fun deposit keeps => ?_
      refine keeps.onward rfl rfl rfl (.inr ⟨fun stopped => ?_, ?_⟩)
      · rw [seeded] at stopped
        cases stopped
      · rw [due, due, seeded]
        rfl
    · exact tended
  · exact tended

theorem react (tended : duty.Tended) {ticker : Ticker}
    (waits : duty.post = .working (.waiting ticker)) {event : Worker.Event}
    (ready : event ∈ Worker.ready ticker duty.signal duty.now) :
    (duty.react ticker event).Tended := by
  have due_waiting : duty.due = ticker.next := by rw [due, waits]; rfl
  cases event with
  | signal =>
      rw [Duty.react, Worker.react]
      obtain ⟨signal, stop⟩ := duty.signal.read
      cases stop with
      | true =>
          exact tended.of_unnoted rfl rfl rfl rfl nofun fun deposit keeps =>
            keeps.onward rfl rfl rfl (.inl rfl)
      | false =>
          refine tended.of_unnoted rfl rfl rfl rfl nofun fun deposit keeps => ?_
          refine keeps.onward rfl rfl rfl (.inr ⟨fun stopped => ?_, due_waiting.symm⟩)
          rw [waits] at stopped
          cases stopped
  | tick =>
      refine tended.of_unnoted rfl rfl rfl rfl (fun _ _ _ => Nat.succ_pos _) fun deposit keeps =>
        ⟨Nat.le_succ_of_le keeps.begun, keeps.past, .inl ?_, keeps.seeded⟩
      -- the tick that the deposit has waited for is there
      have here := Worker.isDue_of_ready ready
      rcases keeps.awaited with passed | ⟨-, stopped | awaited⟩
      · exact passed
      · rw [waits] at stopped
        cases stopped
      · exact Nat.le_trans (due_waiting ▸ awaited) here

theorem step (tended : duty.Tended) (accepted : duty.settings.Accepted) (event : Event L) :
    (duty.step event).Tended := by
  cases event with
  | pass nanos => exact tended.wait nanos
  | answer answer =>
      rw [Duty.step]
      split
      · rename_i cycle under_way
        exact (tended.wait cycle.rest.nanos).proceed accepted under_way answer
      · exact tended
  | enlist => exact tended.enlist
  | react event =>
      rw [Duty.step]
      split
      · rename_i ticker waits
        split
        · exact tended.react waits ‹_›
        · exact tended
      · exact tended
  | tell | hangUp | share =>
      exact tended.of_unnoted rfl rfl rfl rfl tended.counted fun deposit keeps =>
        ⟨keeps.begun, keeps.past, keeps.awaited, keeps.seeded⟩

end Tended

theorem settings_step (event : Event L) : (duty.step event).settings = duty.settings := by
  cases event with
  | answer answer =>
      rw [step]
      split
      · rw [proceed]
        split
        · exact (post_note _ _).1
        · rfl
      · rfl
  | enlist =>
      rw [step]
      split
      · split <;> rfl
      · rfl
  | react event =>
      rw [step]
      split
      · split <;> rfl
      · rfl
  | pass | tell | hangUp | share => rfl

theorem tended_run (settings : Settings) (accepted : settings.Accepted) (now : Instant)
    (events : List (Event L)) :
    ((start settings now).run events).settings = settings ∧
      ((start settings now).run events).Tended := by
  unfold run
  induction events using List.reverseRecOn with
  | nil => exact ⟨rfl, tended_start settings now⟩
  | append_singleton events event ih =>
      rw [List.foldl_append, List.foldl_cons, List.foldl_nil]
      exact ⟨(settings_step event).trans ih.1, ih.2.step (ih.1.symm ▸ accepted) event⟩

/-- The source has no time, and wants to be left in peace for a minute. -/
def busy : Except SourceError SourcePage := .error (.transient 1 "busy" (some (.ofSecs 60)))

/-- Another replica fills the store, so that the worker starts at once; at its first tick it gets the
lock. -/
def opening : List (Event Unit) :=
  [.answer (.lock (.ok none)), .enlist, .pass 300000000000, .react .tick,
    .answer (.lock (.ok (some ())))]

/-- The only page comes, two seconds after it is asked for, if the source is not busy. -/
def fetched (failures : Nat) : List (Event Unit) :=
  (List.replicate failures
    [.pass 2000000000, .answer (.page busy 0 ⟨0⟩), .answer .woken]).flatten ++
      [.pass 2000000000, .answer (.page (.ok {}) 0 ⟨0⟩)]

/-- The rest of the cycle, and the beginning of the next after a while. -/
def onward (pause : Nat) : List (Event Unit) :=
  [.answer (.walk ⟨0⟩), .answer (.upsert (.ok 0) (.ofMillis 0)), .answer .released, .pass pause,
    .react .tick, .answer (.lock (.ok (some ())))]

/-- Two cycles that are done with the source at once. -/
def punctual : List (Event Unit) :=
  opening ++ .answer (.walk ⟨0⟩) ::
    ((fetched 0 ++ onward 298000000000) ++ .answer (.walk ⟨0⟩) :: fetched 0)

/-- A cycle for which the source takes until 50 seconds before the next. -/
def slow : List (Event Unit) :=
  opening ++ .answer (.walk ⟨0⟩) :: ((fetched 4 ++ onward 50000000000) ++ [.answer (.walk ⟨0⟩)])

/-- What the client remembers after it has looked for a page for the first time. -/
def looked : Cache.Memo UInt32 SourcePage :=
  { Cache.Memo.new "upstream" 64 (.ofSecs 60) with counters := Cache.Counters.miss {} }

theorem faithful_looked : looked.Faithful fun _ => none := ⟨rfl, .new ..⟩

/-- The first cycle, when it has asked for its page. -/
def asking : Duty Unit :=
  let opened : Duty Unit := (start {} ⟨0⟩).run opening
  { opened with
    replica := { opened.replica with
      client := ({ opened.replica.client with memo := looked }.ask ⟨1, 0⟩).1 }
    post := opened.post.after (.await (.fetching () {} ⟨some 1⟩ ⟨1, 1⟩)) }

theorem run_opening (events : List (Event Unit)) :
    (start {} ⟨0⟩).run (opening ++ .answer (.walk ⟨0⟩) :: events) = asking.run events := by
  have missed := Cache.Memo.look_new (V := SourcePage) "upstream" 64 (.ofSecs 60) (1 : UInt32)
    ⟨300000000000⟩
  have asks := step_walk_missed ((start {} ⟨0⟩).run opening) ⟨0⟩ rfl missed
  rw [run] at asks
  rw [run, List.foldl_append, List.foldl_cons, asks]
  rfl

theorem deposits_punctual : ((start {} ⟨0⟩).run punctual).deposits =
    [⟨1, {}, 2, ⟨602000000000⟩, ⟨900000000000⟩⟩, ⟨1, {}, 1, ⟨302000000000⟩, ⟨600000000000⟩⟩] := by
  have missed : ((looked.keep 1 {} ⟨302000000000⟩).look 1 ⟨600000000000⟩).2 = none := by
    obtain ⟨faithful, ttl⟩ := faithful_looked.keep 1 {} ⟨302000000000⟩
    obtain ⟨-, -, served⟩ := faithful.look 1 ⟨600000000000⟩
    refine Option.eq_none_iff_forall_ne_some.mpr fun content found => ?_
    obtain ⟨made, latest, fresh⟩ := served content found
    cases latest
    rw [ttl] at fresh
    exact absurd fresh (by decide)
  rw [punctual, run_opening, run, List.foldl_append, List.foldl_cons,
    step_walk_missed _ ⟨0⟩ ?posted ?missed]
  case posted => exact rfl
  case missed => exact Prod.ext rfl missed
  rfl

/-- If the settings satisfy the constraints, and every page that the worker has fetched was put into
memory more than a lifetime before the next tick, then no cycle takes a page from memory that an
earlier one has put there. -/
theorem run_outliving (settings : Settings) (valid : settings.validate = .ok ()) (now : Instant)
    (events : List (Event L))
    (timely : ∀ deposit ∈ ((start settings now).run events).deposits, 0 < deposit.cycle →
      deposit.made.nanos + settings.source.cacheTtl.nanos < deposit.due.nanos) :
    ∀ serving ∈ ((start settings now).run events).servings,
      ∃ deposit ∈ ((start settings now).run events).deposits,
        serving.source = some deposit ∧ deposit.content = serving.content ∧
          deposit.cycle = serving.cycle := by
  obtain ⟨same, tended⟩ := tended_run settings (Settings.accepted_of_validate valid) now events
  intro serving served
  obtain ⟨deposit, stored, explained⟩ := tended.servings serving served
  refine ⟨deposit, stored, explained.source, explained.content, ?_⟩
  rcases explained.late with own | ⟨worker, -, late⟩
  · exact own
  · rw [same] at late
    exact absurd (timely deposit stored worker) (Nat.not_lt.mpr late)

theorem run_outliving_punctual :
    ({} : Settings).validate = .ok () ∧
      ((start {} ⟨0⟩).run punctual).deposits.map Deposit.cycle = [2, 1] ∧
      ∀ serving ∈ ((start {} ⟨0⟩).run punctual).servings,
        ∃ deposit ∈ ((start {} ⟨0⟩).run punctual).deposits,
          serving.source = some deposit ∧ deposit.content = serving.content ∧
            deposit.cycle = serving.cycle := by
  have valid : ({} : Settings).validate = .ok () := by decide
  refine ⟨valid, by rw [deposits_punctual]; rfl, run_outliving {} valid ⟨0⟩ punctual ?_⟩
  rw [deposits_punctual]
  decide

/-- With the settings by default, a cycle that has to wait for the source is followed by one that takes
its page from memory. -/
theorem run_outliving_slow :
    ({} : Settings).validate = .ok () ∧
      ∃ serving ∈ ((start {} ⟨0⟩).run slow).servings, ∃ deposit,
        serving.source = some deposit ∧ 0 < deposit.cycle ∧ deposit.cycle < serving.cycle := by
  have found : ((looked.keep 1 {} ⟨550000000000⟩).look 1 ⟨600000000000⟩).2 = some {} :=
    faithful_looked.look_keep (by decide) 1 {} (by decide)
  refine ⟨by decide, ?_⟩
  rw [slow, run_opening, run, List.foldl_append, List.foldl_cons, List.foldl_nil,
    servings_step_walk _ ⟨0⟩ ?posted ?found]
  case posted => exact rfl
  case found => exact found
  exact ⟨_, List.mem_cons_self, _, rfl, by decide⟩

end Duty

end Roster.Refresh
