import Mathlib.Data.List.Induction
import Roster.Freshness

namespace Roster

/-! When the last refresh was, as it is told at any time. It is kept in whole milliseconds and in one
word, of which one value stands for no refresh; yet no refresh is lost, and none seems later than it
was, unless it was marked in a leap second. -/

/-- A point of time in the calendar, which may lie in a leap second. -/
structure Moment where
  time : Timestamp
  isValid : time.isValid = true
  short : time.nanos < 2000000000

namespace Moment

/-- Nanoseconds from the first of January 1970. A leap second counts as the second after it. -/
def nanos (moment : Moment) : Int := moment.time.toNanos

/-- The last whole millisecond, in nanoseconds. -/
def floor (moment : Moment) : Int := moment.nanos / 1000000 * 1000000

/-- Whether a moment lies in a leap second with which the calendar ends. -/
def Beyond (moment : Moment) : Prop :=
  moment.time.secs = Timestamp.lastSec ∧ moment.time.isLeap = true

theorem floor_le (moment : Moment) : moment.floor ≤ moment.nanos := by
  rw [floor]
  omega

theorem lt_floor (moment : Moment) : moment.nanos < moment.floor + 1000000 := by
  rw [floor]
  omega

/-- The calendar begins and ends with a whole second. -/
theorem bounds (moment : Moment) :
    -8334601228800 ≤ moment.time.secs ∧ moment.time.secs ≤ 8210266876799 := by
  have first : Timestamp.firstSec = -8334601228800 := by decide
  have last : Timestamp.lastSec = 8210266876799 := by decide
  have valid := moment.isValid
  rwa [Timestamp.isValid, first, last, Bool.and_eq_true, decide_eq_true_iff, decide_eq_true_iff]
    at valid

theorem nanos_eq (moment : Moment) :
    moment.nanos = moment.time.secs * 1000000000 + moment.time.nanos := rfl

theorem ofMillis_millis (moment : Moment) :
    Timestamp.ofMillis moment.time.millis = .ofNanos moment.floor := by
  rw [Timestamp.millis_eq]
  rfl

/-- The second of a moment is the one it is written with, or the next if it is a leap second. A
millisecond does not reach over the end of a second. -/
theorem secs_floor (moment : Moment) :
    (Timestamp.ofNanos moment.floor).secs =
      moment.time.secs + if moment.time.isLeap then 1 else 0 := by
  have short := moment.short
  have second := moment.nanos_eq
  change moment.nanos / 1000000 * 1000000 / 1000000000 = _
  rw [Timestamp.isLeap]
  split
  next leap =>
    rw [decide_eq_true_iff] at leap
    omega
  next plain =>
    rw [decide_eq_true_iff] at plain
    omega

theorem isValid_floor (moment : Moment) :
    (Timestamp.ofNanos moment.floor).isValid = true ↔ ¬ moment.Beyond := by
  obtain ⟨least, most⟩ := moment.bounds
  have first : Timestamp.firstSec = -8334601228800 := by decide
  have last : Timestamp.lastSec = 8210266876799 := by decide
  rw [Timestamp.isValid, secs_floor, Beyond, first, last, Bool.and_eq_true, decide_eq_true_iff,
    decide_eq_true_iff]
  cases moment.time.isLeap <;> simp <;> omega

theorem ofMillis?_millis {moment : Moment} (within : ¬ moment.Beyond) :
    Timestamp.ofMillis? moment.time.millis = some (.ofNanos moment.floor) := by
  rw [Timestamp.ofMillis?, ofMillis_millis, if_pos (moment.isValid_floor.mpr within)]

theorem ofMillis?_of_beyond {moment : Moment} (beyond : moment.Beyond) :
    Timestamp.ofMillis? moment.time.millis = none := by
  rw [Timestamp.ofMillis?, ofMillis_millis, if_neg fun valid => moment.isValid_floor.mp valid beyond]

end Moment

namespace Freshness

variable {freshness : Freshness} {mark now later : Moment}

/-- A refresh is kept in its word, and is not taken for none. -/
theorem toInt_word (marked : freshness.lastMillis = some mark.time.millis) :
    freshness.word.toInt = mark.time.millis ∧ freshness.word ≠ never := by
  obtain ⟨least, most⟩ := mark.bounds
  have short := mark.short
  have same : freshness.word.toInt = mark.time.millis := by
    rw [word, marked]
    refine Int64.toInt_ofInt_of_le ?_ ?_
    · rw [Timestamp.millis]
      omega
    · rw [Timestamp.millis]
      omega
  refine ⟨same, fun reserved => ?_⟩
  rw [reserved, never, Int64.toInt_minValue, Timestamp.millis] at same
  omega

theorem lastRefresh_of_mark (marked : freshness.lastMillis = some mark.time.millis) :
    freshness.lastRefresh = Timestamp.ofMillis? mark.time.millis := by
  obtain ⟨same, kept⟩ := toInt_word marked
  rw [lastRefresh, if_neg kept, same]

theorem lastRefresh_of_none (unmarked : freshness.lastMillis = none) :
    freshness.lastRefresh = none := by
  rw [lastRefresh, word, unmarked]
  rfl

/-- The age is counted from the whole millisecond, and is zero before that. -/
theorem age_of_lastRefresh (last : freshness.lastRefresh = some (.ofNanos mark.floor))
    (now : Moment) :
    ∃ age, freshness.age now.time = some age ∧
      (age.nanos : Int) = max 0 (now.time.since (.ofNanos mark.floor)) := by
  obtain ⟨least, -⟩ := mark.bounds
  obtain ⟨-, most⟩ := now.bounds
  refine ⟨_, by rw [age, last]; rfl, ?_⟩
  have near := mark.lt_floor
  have limit := Timestamp.since_le now.time (.ofNanos mark.floor)
  have begun := mark.nanos_eq
  have short := now.short
  rw [Timestamp.toNanos_ofNanos, Timestamp.toNanos] at limit
  rw [Span.nanos_ofNanos, Span.bound, UInt64.size]
  omega

/-- Outside leap seconds a moment is as long after another as their nanoseconds tell. -/
theorem since_floor (plain : now.time.isLeap = false) (origin : Moment) :
    now.time.since (.ofNanos origin.floor) = now.nanos - origin.floor := by
  rw [Timestamp.since_of_not_leap plain (Timestamp.isLeap_ofNanos _), Timestamp.toNanos_ofNanos]
  rfl

theorem age_of_none (untold : freshness.lastRefresh = none) (now : Timestamp) :
    freshness.age now = none := by
  rw [age, untold]
  rfl

theorem ttl_run (freshness : Freshness) (calls : List Call) :
    (freshness.run calls).ttl = freshness.ttl := by
  induction calls generalizing freshness with
  | nil => rfl
  | cons call calls ih =>
      rw [run, List.foldl_cons]
      refine (ih _).trans ?_
      cases call <;> rfl

theorem lastMillis_run (freshness : Freshness) (calls : List Call) :
    (freshness.run calls).lastMillis =
      ((lastMark? calls).map Timestamp.millis).or freshness.lastMillis := by
  induction calls using List.reverseRecOn with
  | nil => rfl
  | append_singleton calls call ih =>
      rw [run, List.foldl_append, lastMark?, List.filterMap_append]
      cases call with
      | mark time => simp [Freshness.call, Freshness.mark, Call.mark?]
      | status | setInProgress =>
          rw [List.filterMap_cons_none rfl, List.filterMap_nil, List.append_nil]
          exact ih

/-- What is told at a moment of a store whose last refresh was marked at the given one, if there was
a refresh. -/
structure Tells (freshness : Freshness) (mark? : Option Moment) (now : Moment) : Prop where
  none_iff : (freshness.report now.time).lastRefresh = none ↔
    ∀ mark, mark? = some mark → mark.Beyond
  lastRefresh : ∀ mark, mark? = some mark → ¬ mark.Beyond →
    (freshness.report now.time).lastRefresh = some (.ofNanos (mark.nanos / 1000000 * 1000000))
  age : (freshness.age now.time).map (fun age => (age.nanos : Int)) =
    (freshness.report now.time).lastRefresh.map fun last => max 0 (now.time.since last)
  since : now.time.isLeap = false → ∀ last, (freshness.report now.time).lastRefresh = some last →
    now.time.since last = now.nanos - last.toNanos
  ageSeconds : (freshness.report now.time).ageSeconds = (freshness.age now.time).map hundredths
  stale_iff : (freshness.report now.time).stale = true ↔
    (freshness.report now.time).lastRefresh = none ∨
      ∃ age, freshness.age now.time = some age ∧ freshness.ttl < age
  /-- Outside leap seconds an age falls short of nothing, and exceeds the time that has passed by
  less than a millisecond. -/
  accuracy : ∀ mark age, mark? = some mark → freshness.age now.time = some age →
    mark.time.isLeap = false → now.time.isLeap = false → mark.nanos ≤ now.nanos →
      now.nanos - mark.nanos ≤ age.nanos ∧ age.nanos < now.nanos - mark.nanos + 1000000

theorem tells_of_within (marked : freshness.lastMillis = some mark.time.millis)
    (within : ¬ mark.Beyond) (now : Moment) : Tells freshness (some mark) now := by
  have last : freshness.lastRefresh = some (.ofNanos mark.floor) :=
    (lastRefresh_of_mark marked).trans (Moment.ofMillis?_millis within)
  have told : (freshness.report now.time).lastRefresh = some (.ofNanos mark.floor) := last
  obtain ⟨age, aged, length⟩ := age_of_lastRefresh last now
  refine ⟨by simp [told, within], ?_, ?_, ?_, rfl, ?_, ?_⟩
  · intro other same _
    cases same
    exact told
  · rw [aged, told, Option.map_some, Option.map_some, length]
  · intro plain other same
    cases told.symm.trans same
    rw [since_floor plain, Timestamp.toNanos_ofNanos]
  · rw [report, isStale, aged]
    simp [last]
  · intro other age' same aged' _ plain elapsed
    cases same
    cases aged.symm.trans aged'
    have before := mark.floor_le
    have near := mark.lt_floor
    rw [since_floor plain] at length
    omega

/-- A refresh that is not told is as good as none. -/
theorem tells_of_untold {mark? : Option Moment} (untold : freshness.lastRefresh = none)
    (beyond : ∀ mark, mark? = some mark → mark.Beyond) (now : Moment) :
    Tells freshness mark? now := by
  have ageless := age_of_none untold now.time
  have none : (freshness.report now.time).lastRefresh = none := untold
  have stale : (freshness.report now.time).stale = true := by rw [report, isStale, ageless]
  refine ⟨iff_of_true none beyond, ?_, by rw [ageless, none]; rfl, ?_, rfl,
    iff_of_true stale (.inl none), ?_⟩
  · intro mark marked within
    exact absurd (beyond mark marked) within
  · intro _ last told
    cases none.symm.trans told
  · intro mark age _ aged
    cases ageless.symm.trans aged

/-- With time a refresh only grows older. -/
theorem isStale_mono (told : freshness.lastRefresh = none ∨
      ∃ mark : Moment, freshness.lastRefresh = some (.ofNanos mark.floor))
    {other : Freshness} (ttl : other.ttl = freshness.ttl)
    (same : other.lastRefresh = freshness.lastRefresh) (plain : now.time.isLeap = false)
    (plain' : later.time.isLeap = false) (onward : now.nanos ≤ later.nanos)
    (stale : freshness.isStale now.time = true) : other.isStale later.time = true := by
  rcases told with untold | ⟨mark, last⟩
  · rw [isStale, age_of_none (same.trans untold)]
  · obtain ⟨age, aged, length⟩ := age_of_lastRefresh last now
    obtain ⟨age', aged', length'⟩ := age_of_lastRefresh (same.trans last) later
    rw [isStale, aged, decide_eq_true_iff, Span.lt_def] at stale
    rw [isStale, aged', decide_eq_true_iff, Span.lt_def, ttl]
    rw [since_floor plain] at length
    rw [since_floor plain'] at length'
    omega

/-- However often a refresh is marked and it is asked how things stand, at whatever times: what is
told is of the last mark, and unless there is another mark, what is stale remains so, if no question
comes in a leap second. -/
theorem run_tells (ttl : Span) (calls : List Call) (mark? : Option Moment) (now : Moment)
    (last : lastMark? calls = mark?.map Moment.time) :
    let freshness := run { ttl } calls
    freshness.ttl = ttl ∧ Tells freshness mark? now ∧
      ∀ (others : List Call) (later : Moment), (∀ call ∈ others, call.mark? = none) →
        now.time.isLeap = false → later.time.isLeap = false → now.nanos ≤ later.nanos →
          (freshness.report now.time).stale = true →
          ((freshness.run others).report later.time).stale = true := by
  intro freshness
  have lastMillis : freshness.lastMillis = mark?.map (·.time.millis) := by
    refine (lastMillis_run _ calls).trans ?_
    rw [last, Option.map_map]
    exact Option.or_none
  have told : (freshness.lastRefresh = none ∧ ∀ mark, mark? = some mark → mark.Beyond) ∨
      ∃ mark, mark? = some mark ∧ ¬ mark.Beyond := by
    cases mark? with
    | none =>
        refine .inl ⟨lastRefresh_of_none lastMillis, ?_⟩
        intro mark marked
        cases marked
    | some mark =>
        by_cases beyond : mark.Beyond
        · refine .inl ⟨(lastRefresh_of_mark lastMillis).trans (Moment.ofMillis?_of_beyond beyond), ?_⟩
          rintro _ ⟨⟩
          exact beyond
        · exact .inr ⟨mark, rfl, beyond⟩
  refine ⟨ttl_run _ calls, ?_, ?_⟩
  · rcases told with ⟨untold, beyond⟩ | ⟨mark, rfl, within⟩
    · exact tells_of_untold untold beyond now
    · exact tells_of_within lastMillis within now
  · intro others later unmarked plain plain' onward stale
    have none_marked : others.filterMap Call.mark? = [] := List.filterMap_eq_nil_iff.mpr unmarked
    have kept : (freshness.run others).lastMillis = freshness.lastMillis := by
      rw [lastMillis_run, lastMark?, none_marked]
      rfl
    have same : (freshness.run others).lastRefresh = freshness.lastRefresh := by
      rw [lastRefresh, word, kept]
      rfl
    refine isStale_mono ?_ (ttl_run _ others) same plain plain' onward stale
    rcases told with ⟨untold, -⟩ | ⟨mark, rfl, within⟩
    · exact .inl untold
    · exact .inr ⟨mark, (lastRefresh_of_mark lastMillis).trans (Moment.ofMillis?_millis within)⟩

/-- A nanosecond before 1970, marked after the end of the calendar and after a leap second. -/
theorem run_tells_early :
    let mark : Moment := ⟨⟨-1, 999999999⟩, by decide, by decide⟩
    let now : Moment := ⟨⟨599, 999000000⟩, by decide, by decide⟩
    let calls : List Call := [.mark ⟨Timestamp.lastSec, 999999999⟩, .mark ⟨1483228799, 1500000000⟩,
      .status ⟨0, 0⟩, .mark mark.time]
    let freshness := run { ttl := .ofSecs 600 } calls
    lastMark? calls = (some mark).map Moment.time ∧ freshness.ttl = .ofSecs 600 ∧
      Tells freshness (some mark) now ∧ freshness.isStale now.time = false ∧
      ∀ later : Moment, now.time.isLeap = false → later.time.isLeap = false →
        now.nanos ≤ later.nanos → (freshness.report now.time).stale = true →
          (freshness.report later.time).stale = true := by
  intro mark now calls freshness
  obtain ⟨ttl, tells, stays⟩ := run_tells (.ofSecs 600) calls (some mark) now rfl
  exact ⟨rfl, ttl, tells, by decide, fun later => stays [] later nofun⟩

/-- What is marked in a leap second is told as a time in the second after it. Where the calendar ends
there is no such time, and it seems that there was no refresh. -/
theorem lastRefresh_of_leap :
    let last : Timestamp := ⟨Timestamp.lastSec, 1500000000⟩
    let leap : Timestamp := ⟨1483228799, 1500000000⟩
    last.isValid = true ∧ lastMark? [.mark last] = some last ∧
      ((run { ttl := .zero } [.mark last]).report last).lastRefresh = none ∧
      leap.isValid = true ∧ lastMark? [.mark leap] = some leap ∧
      ((run { ttl := .zero } [.mark leap]).report leap).lastRefresh =
        some ⟨1483228800, 500000000⟩ := by
  decide

end Freshness

end Roster
