import Roster.Proofs.Cache.Remembering
import Roster.Proofs.Refresh.Duty

namespace Roster.Refresh

/-! A worker that has been told to stop. It stops when it reads the signal, which it may do whenever
no cycle is under way; but if a tick is due at that time, it may as well begin another cycle. -/

/-- Makes the worker stop, at the latest when all that was said has been read. -/
def Signal.Final (signal : Signal) : Prop :=
  signal.closed = true ∨ signal.unread = true ∧ signal.stop = true

theorem Signal.Final.isReady {signal : Signal} (final : signal.Final) : signal.isReady = true := by
  rw [Signal.isReady, Bool.or_eq_true]
  exact final.symm.imp_left And.left

/-- After a final signal has been read there is still one, or the worker has been told to stop. -/
theorem Signal.Final.read {signal : Signal} (final : signal.Final) :
    signal.read.1.Final ∨ signal.read.2 = true := by
  rcases final with closed | ⟨-, stop⟩
  · exact .inl (.inl closed)
  · refine .inr ?_
    rw [Signal.read, stop]
    exact Bool.or_true _

namespace Duty

variable {L : Type} {duty : Duty L}

/-- What the worker has been told after an event. -/
def Event.onSignal : Event L → Signal → Signal
  | .tell stop, signal => signal.send stop
  | .hangUp, signal => signal.close
  | _, signal => signal

/-- The same, had the worker been told this. -/
def hearing (duty : Duty L) (signal : Signal) : Duty L := { duty with signal }

theorem note_hearing (duty : Duty L) (signal : Signal) (usage : Cycle.Usage) :
    (duty.hearing signal).note usage = (duty.note usage).hearing signal := by
  cases usage with
  | looks page now =>
      simp only [note, hearing]
      split <;> rfl
  | keeps | idle => rfl

theorem proceed_hearing (duty : Duty L) (signal : Signal) (cycle : Cycle L)
    (answer : Cycle.Answer L) :
    (duty.hearing signal).proceed cycle answer = (duty.proceed cycle answer).hearing signal := by
  have same : (duty.hearing signal).replica = duty.replica := rfl
  rw [proceed, proceed, note_hearing, same]
  cases cycle.take? duty.replica answer <;> rfl

/-- An answer to a cycle leaves alone what the worker has been told and how often it has begun. -/
theorem proceed_signal (duty : Duty L) (cycle : Cycle L) (answer : Cycle.Answer L) :
    (duty.proceed cycle answer).signal = duty.signal ∧
      (duty.proceed cycle answer).begun = duty.begun := by
  have noted (usage : Cycle.Usage) :
      (duty.note usage).signal = duty.signal ∧ (duty.note usage).begun = duty.begun := by
    cases usage with
    | looks page now =>
        rw [note]
        split <;> exact ⟨rfl, rfl⟩
    | keeps | idle => exact ⟨rfl, rfl⟩
  rw [proceed]
  split
  · exact noted _
  · exact ⟨rfl, rfl⟩

/-! The beginning of a cycle. -/

/-- Has been told to stop, or has stopped. -/
def Leaving (duty : Duty L) : Prop := duty.signal.Final ∨ duty.post = .working .stopped

/-- The worker takes no tick if it can read a signal as well. -/
def Prompt (duty : Duty L) : List (Event L) → Prop
  | [] => True
  | event :: rest =>
    (∀ ticker, event = .react .tick → duty.post = .working (.waiting ticker) →
      Worker.ready ticker duty.signal duty.now ≠ [.signal, .tick]) ∧ (duty.step event).Prompt rest

theorem react_cases (duty : Duty L) (event : Worker.Event) :
    duty.step (.react event) = duty ∨ ∃ ticker, duty.post = .working (.waiting ticker) ∧
      event ∈ Worker.ready ticker duty.signal duty.now ∧
      duty.step (.react event) = duty.react ticker event := by
  rw [step]
  split
  · rename_i ticker waits
    split
    · exact .inr ⟨ticker, waits, ‹_›, rfl⟩
    · exact .inl rfl
  · exact .inl rfl

namespace Leaving

theorem react (leaving : duty.Leaving) (event : Worker.Event)
    (prompt : ∀ ticker, event = .tick → duty.post = .working (.waiting ticker) →
      Worker.ready ticker duty.signal duty.now ≠ [.signal, .tick]) :
    (duty.step (.react event)).Leaving ∧ (duty.step (.react event)).begun = duty.begun := by
  rcases duty.react_cases event with same | ⟨ticker, waits, ready, reacts⟩
  · rw [same]
    exact ⟨leaving, rfl⟩
  have final : duty.signal.Final := leaving.resolve_right (by rw [waits]; nofun)
  cases event with
  | tick =>
      -- The signal is there to read, so the tick was not the only event at hand.
      refine absurd ?_ (prompt ticker rfl waits)
      rw [Worker.ready, final.isReady] at ready ⊢
      cases due : ticker.isDue duty.now with
      | true => rfl
      | false => simp [due] at ready
  | signal =>
      rw [reacts]
      refine ⟨?_, rfl⟩
      rcases final.read with final' | stop
      · exact .inl final'
      · refine .inr ?_
        change Post.working (if duty.signal.read.2 = true then .stopped else .waiting ticker) = _
        rw [if_pos stop]

theorem step (leaving : duty.Leaving) {event : Event L} (lasting : event ≠ .tell false)
    (prompt : ∀ ticker, event = .react .tick → duty.post = .working (.waiting ticker) →
      Worker.ready ticker duty.signal duty.now ≠ [.signal, .tick]) :
    (duty.step event).Leaving ∧ (duty.step event).begun = duty.begun := by
  cases event with
  | pass nanos => exact ⟨leaving, rfl⟩
  | share pages freshness => exact ⟨leaving, rfl⟩
  | hangUp => exact ⟨leaving.imp_left fun _ => .inl rfl, rfl⟩
  | react event => exact leaving.react event fun ticker tick => prompt ticker (congrArg _ tick)
  | tell stop =>
      cases stop with
      | true => exact ⟨leaving.imp_left fun _ => .inr ⟨rfl, rfl⟩, rfl⟩
      | false => exact absurd rfl lasting
  | enlist =>
      rw [Duty.step]
      split
      · rename_i seeded _
        have final : duty.signal.Final :=
          leaving.resolve_right fun stopped => by rw [seeded] at stopped; cases stopped
        split
        · exact ⟨.inl final, rfl⟩
        · exact ⟨leaving, rfl⟩
      · exact ⟨leaving, rfl⟩
  | answer answer =>
      rw [Duty.step]
      split
      · rename_i cycle posted
        obtain ⟨signal, begun⟩ := proceed_signal (duty.wait cycle.rest.nanos) cycle
          (answer.at (duty.wait cycle.rest.nanos).now)
        refine ⟨.inl ?_, begun⟩
        rw [signal]
        exact leaving.resolve_right fun stopped => by rw [stopped] at posted; cases posted
      · exact ⟨leaving, rfl⟩

theorem run (leaving : duty.Leaving) {events : List (Event L)}
    (lasting : .tell false ∉ events) (prompt : duty.Prompt events) :
    (duty.run events).begun = duty.begun := by
  induction events generalizing duty with
  | nil => rfl
  | cons event rest ih =>
      rw [List.mem_cons, not_or] at lasting
      obtain ⟨leaving', same⟩ := leaving.step (Ne.symm lasting.1) prompt.1
      exact (ih leaving' lasting.2 prompt.2).trans same

end Leaving

/-! The end of the cycle that is under way. -/

/-- The worker is amid a cycle before each of these events. -/
def Busy (duty : Duty L) : List (Event L) → Prop
  | [] => True
  | event :: rest =>
    (∃ ticker cycle, duty.post = .working (.refreshing ticker cycle)) ∧
      (duty.step event).Busy rest

theorem step_hearing {ticker : Ticker} {cycle : Cycle L}
    (busy : duty.post = .working (.refreshing ticker cycle)) (signal : Signal) (event : Event L) :
    (duty.hearing signal).step event = (duty.step event).hearing (event.onSignal signal) := by
  have busy' : (duty.hearing signal).post = .working (.refreshing ticker cycle) := busy
  cases event with
  | pass | tell | hangUp | share => rfl
  | enlist => rw [step, step, busy, busy']; rfl
  | react => rw [step, step, busy, busy']; rfl
  | answer answer =>
      rw [step, step, busy, busy']
      exact (duty.wait cycle.rest.nanos).proceed_hearing signal cycle _

theorem run_hearing {events : List (Event L)} (busy : duty.Busy events) (signal : Signal) :
    ∃ last, (duty.hearing signal).run events = (duty.run events).hearing last := by
  induction events generalizing duty signal with
  | nil => exact ⟨signal, rfl⟩
  | cons event rest ih =>
      obtain ⟨⟨ticker, cycle, post⟩, busy⟩ := busy
      obtain ⟨last, same⟩ := ih busy (event.onSignal signal)
      refine ⟨last, ?_⟩
      change ((duty.hearing signal).step event).run rest = _
      rw [step_hearing post]
      exact same

/-- Once the worker has been told to stop, or nobody is left who could tell it anything, it begins
no cycle as long as it takes no tick while there is a signal to read. A cycle that is under way then
goes on to its end as if the worker had been told nothing. -/
theorem run_shutdown (settings : Settings) (now : Instant) (before later : List (Event L))
    (last : Event L) (stops : last = .tell true ∨ last = .hangUp)
    (lasting : .tell false ∉ later)
    (prompt : ((start settings now).run (before ++ [last])).Prompt later) :
    let duty := (start settings now).run before
    ((duty.step last).run later).begun = duty.begun ∧
      ∀ events, duty.Busy events →
        ∃ signal, (duty.step last).run events = (duty.run events).hearing signal := by
  intro duty
  have told : (start settings now).run (before ++ [last]) = duty.step last := by
    rw [run, List.foldl_append]
    rfl
  rw [told] at prompt
  rcases stops with rfl | rfl
  · have leaving : (duty.step (.tell true)).Leaving := .inl (.inr ⟨rfl, rfl⟩)
    exact ⟨leaving.run lasting prompt, fun events busy => run_hearing busy _⟩
  · have leaving : (duty.step .hangUp).Leaving := .inl (.inl rfl)
    exact ⟨leaving.run lasting prompt, fun events busy => run_hearing busy _⟩

/-! A worker with an interval of 20 s, and a source that takes 10 s for each of its three pages: the
first cycle goes on until 50 s, so the tick of 40 s is overdue by then. After 45 s nobody is left who
could tell the worker anything. -/

def hasty : Settings :=
  { source := { cacheTtl := .ofSecs 10 }, refresh := { interval := .ofSecs 20 } }

def crew (ids : List Int64) (next : Option String) : SourcePage where
  info := { next }
  results := ids.map fun id =>
    { id, status := "Alive", species := "Human", origin := { name := "Earth (C-137)" } }

/-- Another replica fills the store, and the worker gets the lock at its first tick. -/
def called : List (Event Unit) :=
  [.answer (.lock (.ok none)), .enlist, .pass 20000000000, .react .tick,
    .answer (.lock (.ok (some ())))]

/-- Asks for a page and gets it. -/
def paged (page : SourcePage) : List (Event Unit) :=
  [.answer (.walk ⟨0⟩), .pass 10000000000, .answer (.page (.ok page) 0 ⟨0⟩)]

def lingering : List (Event Unit) :=
  called ++ (paged (crew [1, 2] (some "2")) ++ (paged (crew [3, 4] (some "3")) ++
    [.answer (.walk ⟨0⟩), .pass 5000000000]))

/-- The rest of the cycle. -/
def closing : List (Event Unit) :=
  [.pass 5000000000, .answer (.page (.ok (crew [5] none)) 0 ⟨0⟩), .answer (.walk ⟨0⟩),
    .answer (.upsert (.ok 5) (.ofMillis 0)), .answer .released]

/-! What the client remembers before it looks for the second page, and for the third. -/

def onePage : Cache.Memo UInt32 SourcePage :=
  ((Cache.Memo.new "upstream" 64 (.ofSecs 10)).look 1 ⟨20000000000⟩).1.keep 1
    (crew [1, 2] (some "2")) ⟨30000000000⟩

def twoPages : Cache.Memo UInt32 SourcePage :=
  (onePage.look 2 ⟨30000000000⟩).1.keep 2 (crew [3, 4] (some "3")) ⟨40000000000⟩

/-- The worker after 45 s. -/
def detained : Duty Unit :=
  let duty := (start hasty ⟨0⟩).run called
  { duty with
    now := ⟨45000000000⟩
    replica := { duty.replica with
      client := { duty.replica.client with
        memo := (twoPages.look 3 ⟨40000000000⟩).1
        tally := { calls := 3 } } }
    post := duty.post.after (.await (.fetching ()
      ((({} : Gathered).add (crew [1, 2] (some "2"))).add (crew [3, 4] (some "3")))
      ⟨some 3⟩ ⟨3, 1⟩))
    deposits := [⟨2, crew [3, 4] (some "3"), 1, ⟨40000000000⟩, ⟨40000000000⟩⟩,
      ⟨1, crew [1, 2] (some "2"), 1, ⟨30000000000⟩, ⟨40000000000⟩⟩] }

theorem run_lingering : (start hasty ⟨0⟩).run lingering = detained := by
  have none_yet : (Cache.Memo.new "upstream" 64 (.ofSecs 10)).Faithful
      fun (_ : UInt32) => (none : Option (SourcePage × Instant)) := .new ..
  have one := ((none_yet.look 1 ⟨20000000000⟩).1.keep 1 (crew [1, 2] (some "2")) ⟨30000000000⟩).1
  have two := ((one.look 2 ⟨30000000000⟩).1.keep 2 (crew [3, 4] (some "3")) ⟨40000000000⟩).1
  have missed₂ : (onePage.look 2 ⟨30000000000⟩).2 = none := one.look_of_none (by simp) _
  have missed₃ : (twoPages.look 3 ⟨40000000000⟩).2 = none := two.look_of_none (by simp) _
  rw [lingering, run, List.foldl_append, paged, List.cons_append, List.foldl_cons,
    step_walk_missed _ ⟨0⟩ ?posted (Prod.ext rfl (none_yet.look_of_none rfl ⟨20000000000⟩))]
  case posted => exact rfl
  rw [List.foldl_append, paged, List.cons_append, List.foldl_cons,
    step_walk_missed _ ⟨0⟩ ?posted (Prod.ext rfl missed₂)]
  case posted => exact rfl
  rw [List.foldl_append, List.foldl_cons,
    step_walk_missed _ ⟨0⟩ ?posted (Prod.ext rfl missed₃)]
  case posted => exact rfl
  rfl

theorem run_shutdown_heeded :
    let duty := (start hasty ⟨0⟩).run lingering
    let later := closing ++ [.react .signal, .pass 20000000000, .react .tick]
    ((start hasty ⟨0⟩).run (lingering ++ [.hangUp])).Prompt later ∧ duty.begun = 1 ∧
      ((duty.step .hangUp).run later).begun = 1 ∧
      ((duty.step .hangUp).run later).post = .working .stopped ∧ duty.Busy closing ∧
      ∃ signal, (duty.step .hangUp).run closing = (duty.run closing).hearing signal := by
  intro duty later
  have told : (start hasty ⟨0⟩).run (lingering ++ [.hangUp]) = detained.step .hangUp := by
    rw [run, List.foldl_append]
    exact congrArg (step · .hangUp) run_lingering
  have prompt : ((start hasty ⟨0⟩).run (lingering ++ [.hangUp])).Prompt later := by
    rw [told]
    exact ⟨nofun, nofun, nofun, nofun, nofun, nofun, nofun, nofun, trivial⟩
  have busy : duty.Busy closing := by
    rw [show duty = detained from run_lingering]
    exact ⟨⟨_, _, rfl⟩, ⟨_, _, rfl⟩, ⟨_, _, rfl⟩, ⟨_, _, rfl⟩, ⟨_, _, rfl⟩, trivial⟩
  have lasting : .tell false ∉ later := by simp [later, closing]
  obtain ⟨begun, ends⟩ :=
    run_shutdown hasty ⟨0⟩ lingering later .hangUp (.inr rfl) lasting prompt
  have once : duty.begun = 1 := by
    rw [show duty = detained from run_lingering]
    rfl
  refine ⟨prompt, once, begun.trans once, ?_, busy, ends closing busy⟩
  rw [show duty = detained from run_lingering]
  rfl

/-- The signal is there to read when the cycle is over, but so is a tick: if the worker takes that
one, it begins another cycle. -/
theorem run_shutdown_overdue :
    let duty := (start hasty ⟨0⟩).run lingering
    let ended := (duty.step .hangUp).run closing
    duty.begun = 1 ∧ duty.now = ⟨45000000000⟩ ∧ ended.signal.isReady = true ∧
      ended.due < ended.now ∧ (ended.step (.react .tick)).begun = 2 := by
  intro duty ended
  have ends : ended = (detained.step .hangUp).run closing :=
    congrArg (fun duty => (step duty .hangUp).run closing) run_lingering
  rw [ends, show duty = detained from run_lingering]
  exact ⟨rfl, rfl, rfl, by decide, rfl⟩

end Duty

end Roster.Refresh
