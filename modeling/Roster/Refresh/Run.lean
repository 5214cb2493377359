import Roster.Refresh.Cycle

namespace Roster.Refresh

/-! A cycle carried through without a break, by a store and a source that answer at once. -/

/-- A store with its locks and a source. `σ` is the type of their states. -/
structure Surroundings (σ L : Type) where
  tryLock : σ → LockKey → σ × Except StoreError (Option L)
  count : σ → σ × Except StoreError Nat
  upsert : σ → List Character → σ × Except StoreError Nat
  release : σ → L → σ × Except StoreError Unit
  fetch : σ → UInt32 → σ × Except SourceError SourcePage

namespace Cycle

variable {σ L : Type}

/-- A replica amid its surroundings, and the time. The pauses of a cycle let time pass. -/
structure Scene (σ : Type) where
  state : σ
  replica : Replica
  now : Instant := ⟨0⟩
  time : Timestamp

def respond (surroundings : Surroundings σ L) (scene : Scene σ) :
    Cycle L → Scene σ × Step L
  | .acquiring mode =>
    let (state, answer) := surroundings.tryLock scene.state mode.lock
    let (replica, step) := onLock scene.replica mode answer
    ({ scene with state, replica }, step)
  | .counting lease =>
    let (state, answer) := surroundings.count scene.state
    let (replica, step) := onCount scene.replica lease answer
    ({ scene with state, replica }, step)
  | .walking lease gathered walk =>
    let (replica, step) := onWalk scene.replica lease gathered walk scene.now
    ({ scene with replica }, step)
  | .fetching lease gathered walk fetch =>
    let (state, answer) := surroundings.fetch scene.state fetch.page
    let (replica, step) := onPage scene.replica lease gathered walk fetch answer 0 scene.now
    ({ scene with state, replica }, step)
  | .pausing lease gathered walk fetch span =>
    let (replica, step) := onWake scene.replica lease gathered walk fetch
    ({ scene with replica, now := ⟨scene.now.nanos + span.nanos⟩ }, step)
  | .storing lease gathered cutShort =>
    let (state, answer) := surroundings.upsert scene.state gathered.kept.rows
    let (replica, step) := onUpsert scene.replica lease gathered cutShort answer scene.time
    ({ scene with state, replica }, step)
  | .releasing lease outcome =>
    let (state, _) := surroundings.release scene.state lease
    let (replica, step) := onRelease scene.replica outcome
    ({ scene with state, replica }, step)

/-- Goes on with a cycle for so many steps at most. Gives its outcome if it has ended by then. -/
def runFrom (surroundings : Surroundings σ L) (scene : Scene σ) (cycle : Cycle L) :
    Nat → Scene σ × Option Outcome
  | 0 => (scene, none)
  | steps + 1 =>
    match respond surroundings scene cycle with
    | (scene, .ended outcome) => (scene, some outcome)
    | (scene, .await cycle) => runFrom surroundings scene cycle steps

def run (surroundings : Surroundings σ L) (scene : Scene σ) (mode : Mode) (steps : Nat) :
    Scene σ × Option Outcome :=
  let (replica, cycle) := Cycle.start scene.replica mode
  runFrom surroundings { scene with replica } cycle steps

end Cycle

end Roster.Refresh
