import Roster.Database.Store
import Roster.Simulation.DatabaseServer

namespace Roster.Database

/-! With a server in good health an operation of the store comes out well if a session can be lent to
it, and fails if all of them are lent. -/

variable {σ α : Type}

/-- What there is to see of a server: whether it does its work, how many rows there are, and which
locks nobody holds. -/
structure Outlook (σ : Type) where
  well : σ → Prop
  total : σ → Int64
  free : σ → LockKey → Prop

/-- The server still does its work, and no session has ended. -/
structure Lasts (server : Server σ) (outlook : Outlook σ) (state after : σ) : Prop where
  well : outlook.well after
  isOpen : ∀ session, server.isOpen state session = true → server.isOpen after session = true

/-- Nothing is different for others. -/
structure Stays (server : Server σ) (outlook : Outlook σ) (state after : σ) : Prop extends
    Lasts server outlook state after where
  total : outlook.total after = outlook.total state
  free : ∀ key, outlook.free state key → outlook.free after key

/-- What can be expected of the answer to a statement. -/
def Meets (outlook : Outlook σ) (state : σ) : Statement → Answer → σ → Prop
  | .tryLock key, answer, after =>
    outlook.total after = outlook.total state ∧
      (outlook.free state key → Script.readFlag answer = .ok true)
  | .count, answer, _ => Script.readCount answer = .ok (outlook.total state)
  | _, _, _ => True

structure Healthy (server : Server σ) (outlook : Outlook σ) : Prop where
  connect : ∀ {state : σ}, outlook.well state → ∃ after session,
    server.connect state = (after, .ok session) ∧ server.isOpen after session = true ∧
      Stays server outlook state after
  prepare : ∀ {state : σ} {session : Session} (statement : Statement), outlook.well state →
    server.isOpen state session = true → ∃ after answer,
      server.answer state session (.prepare statement) = (after, .ok answer) ∧
        Stays server outlook state after
  execute : ∀ {state : σ} {session : Session} (statement : Statement), outlook.well state →
    server.isOpen state session = true → ∃ after answer,
      server.answer state session (.execute statement) = (after, .ok answer) ∧
        Lasts server outlook state after ∧ Meets outlook state statement answer after

theorem Lasts.trans {server : Server σ} {outlook : Outlook σ} {state between after : σ}
    (first : Lasts server outlook state between) (second : Lasts server outlook between after) :
    Lasts server outlook state after where
  well := second.well
  isOpen session isOpen := second.isOpen session (first.isOpen session isOpen)

namespace Healthy

variable {server : Server σ} {outlook : Outlook σ} {state : σ} {session : Session}

/-- A statement is carried out, whether it has to be prepared or not. -/
theorem run_statement (healthy : Healthy server outlook) (well : outlook.well state)
    (isOpen : server.isOpen state session = true) (statement : Statement) :
    ∃ between after answer, Stays server outlook state between ∧
      Lasts server outlook between after ∧ Meets outlook between statement answer after ∧
      ∀ {α : Type} (next : Except Failure Answer → Script α),
        server.run session state (.statement statement next) =
          server.run session after (next (.ok answer)) := by
  unfold Script.statement
  split
  · obtain ⟨between, prepared, prepares, stays⟩ := healthy.prepare statement well isOpen
    obtain ⟨after, answer, executes, lasts, meets⟩ :=
      healthy.execute statement stays.well (stays.isOpen session isOpen)
    refine ⟨between, after, answer, stays, lasts, meets, fun next => ?_⟩
    rw [Server.run, prepares]
    dsimp only
    rw [Server.run, executes]
  · obtain ⟨after, answer, executes, lasts, meets⟩ := healthy.execute statement well isOpen
    refine ⟨state, after, answer, ⟨⟨well, fun _ isOpen => isOpen⟩, rfl, fun _ free => free⟩, lasts,
      meets, fun next => ?_⟩
    rw [Server.run, executes]

theorem run_tryLock (healthy : Healthy server outlook) (well : outlook.well state)
    (isOpen : server.isOpen state session = true) {key : LockKey}
    (free : outlook.free state key) :
    ∃ after, server.run session state (.tryLock key) = (after, .ok true) ∧
      Lasts server outlook state after ∧ outlook.total after = outlook.total state := by
  obtain ⟨between, after, answer, stays, lasts, ⟨total, granted⟩, runs⟩ :=
    healthy.run_statement well isOpen (.tryLock key)
  refine ⟨after, ?_, stays.toLasts.trans lasts, total.trans stays.total⟩
  rw [Script.tryLock, Script.one, runs, Server.run]
  exact congrArg _ (granted (stays.free key free))

theorem run_count (healthy : Healthy server outlook) (well : outlook.well state)
    (isOpen : server.isOpen state session = true) :
    ∃ after, server.run session state .count = (after, .ok (outlook.total state)) ∧
      Lasts server outlook state after := by
  obtain ⟨between, after, answer, stays, lasts, counted, runs⟩ :=
    healthy.run_statement well isOpen .count
  refine ⟨after, ?_, stays.toLasts.trans lasts⟩
  rw [Script.count, Script.one, runs, Server.run, ← stays.total]
  exact congrArg _ counted

/-- A step of a transaction whose answer is good whatever it says. -/
theorem run_step {β : Type} (healthy : Healthy server outlook) (well : outlook.well state)
    (isOpen : server.isOpen state session = true) (statement : Statement) (read : Answer → β)
    (next : β → Script α) :
    ∃ after value, Lasts server outlook state after ∧
      server.run session state (.step statement (fun answer => .ok (read answer)) next) =
        server.run session after (next value) := by
  obtain ⟨between, after, answer, stays, lasts, -, runs⟩ :=
    healthy.run_statement well isOpen statement
  exact ⟨after, read answer, stays.toLasts.trans lasts, runs _⟩

theorem run_writePieces (healthy : Healthy server outlook) (well : outlook.well state)
    (isOpen : server.isOpen state session = true) (pieces : List (List Character))
    (affected : Nat) :
    ∃ after written, server.run session state (.writePieces pieces affected) =
      (after, .ok written) ∧ Lasts server outlook state after := by
  induction pieces generalizing state affected with
  | nil =>
      obtain ⟨between, after, answer, stays, lasts, -, runs⟩ :=
        healthy.run_statement well isOpen .commit
      exact ⟨after, affected, runs _, stays.toLasts.trans lasts⟩
  | cons piece pieces ih =>
      obtain ⟨between, written, lasts, runs⟩ := healthy.run_step well isOpen (.upsert piece)
        Answer.affected fun written => .writePieces pieces (affected + written)
      obtain ⟨after, written, runs', lasts'⟩ :=
        ih lasts.well (lasts.isOpen session isOpen) (affected + written)
      exact ⟨after, written, runs.trans runs', lasts.trans lasts'⟩

theorem run_upsert (healthy : Healthy server outlook) (well : outlook.well state)
    (isOpen : server.isOpen state session = true) (characters : List Character) :
    ∃ after written, server.run session state (.upsert characters) = (after, .ok written) ∧
      Lasts server outlook state after := by
  obtain ⟨between, -, lasts, runs⟩ := healthy.run_step well isOpen .start (fun _ => ()) fun _ =>
    .writePieces (chunks Script.upsertChunk (Batch.ofList characters).rows) 0
  obtain ⟨after, written, runs', lasts'⟩ := healthy.run_writePieces lasts.well
    (lasts.isOpen session isOpen) (chunks Script.upsertChunk (Batch.ofList characters).rows) 0
  exact ⟨after, written, runs.trans runs', lasts.trans lasts'⟩

end Healthy

/-! The store and its pool. -/

/-- A session that can be lent is one that waits in the pool, or it is opened. -/
theorem Store.borrow_cases (server : Server σ) (store : Store σ)
    (inService : store.pool.closed = false)
    (room : store.pool.lent.length < store.pool.capacity) :
    ∃ idle, (∃ session, server.isOpen store.state session = true ∧
        store.borrow server =
          ({ store with pool := Pool.lend { store.pool with idle } session }, .ok session)) ∨
      ∀ {after : σ} {session : Session}, server.connect store.state = (after, .ok session) →
        store.borrow server =
          ({ pool := Pool.lend { store.pool with idle } session, state := after },
            .ok session) := by
  rw [borrow, Pool.checkout, if_neg (by rw [inService]; nofun), if_neg (Nat.not_le.mpr room)]
  cases left : store.pool.idle.dropWhile fun session => !server.isOpen store.state session with
  | cons session idle =>
      have first := List.head?_dropWhile_not
        (fun session => !server.isOpen store.state session) store.pool.idle
      rw [left] at first
      exact ⟨idle, .inl ⟨session, by simpa using first, rfl⟩⟩
  | nil =>
      refine ⟨[], .inr fun connects => ?_⟩
      dsimp only
      rw [connects]

/-- A store over a server that works, with a pool of so many sessions of which these are lent. -/
structure Fit (outlook : Outlook σ) (capacity : Nat) (lent : List Session) (store : Store σ) :
    Prop where
  well : outlook.well store.state
  capacity_eq : store.pool.capacity = capacity
  lent_eq : store.pool.lent = lent
  inService : store.pool.closed = false

namespace Fit

variable {server : Server σ} {outlook : Outlook σ} {capacity : Nat} {lent : List Session}
  {store : Store σ}

theorem borrow_of_full (fit : Fit outlook capacity lent store) (full : capacity ≤ lent.length) :
    store.borrow server = (store, .error .exhausted) := by
  rw [Store.borrow, Pool.checkout, if_neg (by rw [fit.inService]; nofun),
    if_pos (by rw [fit.capacity_eq, fit.lent_eq]; exact full)]

theorem borrow_of_room (healthy : Healthy server outlook) (fit : Fit outlook capacity lent store)
    (room : lent.length < capacity) :
    ∃ after session, store.borrow server = (after, .ok session) ∧
      Fit outlook capacity (session :: lent) after ∧
      server.isOpen after.state session = true ∧
      Stays server outlook store.state after.state := by
  have room' : store.pool.lent.length < store.pool.capacity := by
    rw [fit.lent_eq, fit.capacity_eq]
    exact room
  obtain ⟨idle, ⟨session, isOpen, borrows⟩ | borrows⟩ :=
    store.borrow_cases server fit.inService room'
  · refine ⟨_, session, borrows, ⟨fit.well, fit.capacity_eq, ?_, fit.inService⟩, isOpen,
      ⟨fit.well, fun _ isOpen => isOpen⟩, rfl, fun _ free => free⟩
    exact congrArg (session :: ·) fit.lent_eq
  · obtain ⟨after, session, connects, isOpen, stays⟩ := healthy.connect fit.well
    refine ⟨_, session, borrows connects, ⟨stays.well, fit.capacity_eq, ?_, fit.inService⟩, isOpen,
      stays⟩
    exact congrArg (session :: ·) fit.lent_eq

/-- What is given back is not lent any more. -/
theorem giveBack {session : Session} (fit : Fit outlook capacity (session :: lent) store) :
    Fit outlook capacity lent (store.giveBack session) where
  well := fit.well
  capacity_eq := by simpa [Store.giveBack] using fit.capacity_eq
  lent_eq := by simp [Store.giveBack, fit.lent_eq]
  inService := by simpa [Store.giveBack] using fit.inService

theorem run_of_room (healthy : Healthy server outlook) (fit : Fit outlook capacity lent store)
    (room : lent.length < capacity) (script : Script α) (good : α → Prop)
    (runs : ∀ {state session}, outlook.well state → server.isOpen state session = true →
      outlook.total state = outlook.total store.state → ∃ after value,
        server.run session state script = (after, .ok value) ∧
          Lasts server outlook state after ∧ good value) :
    ∃ after value, store.run server script = (after, .ok value) ∧ good value ∧
      Fit outlook capacity lent after := by
  obtain ⟨between, session, borrows, fit', isOpen, stays⟩ := borrow_of_room healthy fit room
  obtain ⟨after, value, runs, lasts, right⟩ := runs fit'.well isOpen stays.total
  have fit : Fit outlook capacity (session :: lent) { between with state := after } :=
    ⟨lasts.well, fit'.capacity_eq, fit'.lent_eq, fit'.inService⟩
  refine ⟨_, value, ?_, right, fit.giveBack⟩
  rw [Store.run, borrows]
  dsimp only
  rw [Store.runIn, runs]

theorem run_of_full (fit : Fit outlook capacity lent store) (full : capacity ≤ lent.length)
    (script : Script α) : store.run server script = (store, .error .exhausted) := by
  rw [Store.run, borrow_of_full fit full]

theorem tryLock (healthy : Healthy server outlook) (fit : Fit outlook capacity lent store)
    (room : lent.length < capacity) {key : LockKey} (free : outlook.free store.state key) :
    ∃ after session, store.tryLock server key = (after, .ok (some ⟨key, session⟩)) ∧
      Fit outlook capacity (session :: lent) after ∧
      outlook.total after.state = outlook.total store.state := by
  obtain ⟨between, session, borrows, fit', isOpen, stays⟩ := borrow_of_room healthy fit room
  obtain ⟨after, granted, lasts, total⟩ :=
    healthy.run_tryLock fit'.well isOpen (stays.free key free)
  refine ⟨{ between with state := after }, session, ?_,
    ⟨lasts.well, fit'.capacity_eq, fit'.lent_eq, fit'.inService⟩, total.trans stays.total⟩
  rw [Store.tryLock, borrows]
  dsimp only
  rw [Store.runIn, granted]

theorem count (healthy : Healthy server outlook) (fit : Fit outlook capacity lent store)
    (room : lent.length < capacity) :
    ∃ after, store.count server = (after, .ok (Store.rowCount (outlook.total store.state))) ∧
      Fit outlook capacity lent after := by
  obtain ⟨after, _, runs, rfl, fit'⟩ := run_of_room healthy fit room .count
    (· = outlook.total store.state) fun well isOpen total => by
      obtain ⟨after, runs, lasts⟩ := healthy.run_count well isOpen
      exact ⟨after, _, runs, lasts, total⟩
  refine ⟨after, ?_, fit'⟩
  rw [Store.count, Store.perform, runs]
  rfl

theorem count_of_full (server : Server σ) (fit : Fit outlook capacity lent store) (full : capacity ≤ lent.length) :
    ∃ error, store.count server = (store, .error error) := by
  rw [Store.count, Store.perform, run_of_full fit full]
  exact ⟨_, rfl⟩

/-- To write nothing needs no session. -/
theorem upsert (healthy : Healthy server outlook) (fit : Fit outlook capacity lent store)
    (characters : List Character) :
    (∃ written, (store.upsert server characters).2 = .ok written) ↔
      lent.length < capacity ∨ characters = [] := by
  rw [Store.upsert]
  cases characters with
  | nil => exact iff_of_true ⟨0, rfl⟩ (.inr rfl)
  | cons character characters =>
      rw [if_neg (by simp), Store.perform]
      by_cases room : lent.length < capacity
      · obtain ⟨after, written, runs, -, -⟩ := run_of_room healthy fit room
          (.upsert (character :: characters)) (fun _ => True) fun well isOpen _ => by
            obtain ⟨after, written, runs, lasts⟩ :=
              healthy.run_upsert well isOpen (character :: characters)
            exact ⟨after, written, runs, lasts, trivial⟩
        rw [runs]
        exact iff_of_true ⟨written, rfl⟩ (.inl room)
      · rw [run_of_full fit (Nat.not_lt.mp room)]
        exact iff_of_false nofun (not_or.mpr ⟨room, nofun⟩)

end Fit

end Roster.Database

/-! A scripted server does its work if it is not told otherwise. -/

namespace Roster.Simulation.DatabaseServer

open Database

/-- Nothing goes wrong, and no lock is refused. -/
structure Well (server : DatabaseServer) : Prop where
  accepts : server.refuses = false
  faults : server.faults = []
  rowless : server.rowless = none
  locks : server.locks = []
  ended : ∀ session ∈ server.ended, session < server.opened

def outlook : Outlook DatabaseServer := ⟨Well, total, fun _ _ => True⟩

variable {state : DatabaseServer} {session : Session}

theorem connect_eq (well : state.Well) :
    state.connect = ({ state with opened := state.opened + 1 }, .ok state.opened) := by
  rw [connect, well.accepts, well.faults, Fault.strike, ← well.faults]
  rfl

theorem answer_prepare (well : state.Well) (isOpen : state.isOpen session = true)
    (statement : Statement) : state.answer session (.prepare statement) = (state, .ok {}) := by
  rw [answer, if_pos isOpen, well.faults]
  rw [Fault.strike, ← well.faults]

/-- As good as before. -/
structure Keeps (state after : DatabaseServer) : Prop where
  well : after.Well
  ended : after.ended = state.ended
  total : after.total = state.total

theorem keeps_note (well : state.Well) (statement : Statement) :
    Keeps state (state.note statement) := by
  rw [note]
  split
  · exact ⟨well, rfl, rfl⟩
  · exact ⟨{ well with }, rfl, rfl⟩

theorem keeps_respond (well : state.Well) (statement : Statement) :
    Keeps state (state.respond statement).1 := by
  cases statement with
  | tryLock key =>
      rw [respond, well.locks]
      exact ⟨{ well with locks := rfl }, rfl, rfl⟩
  | unlock key => exact ⟨{ well with }, rfl, rfl⟩
  | _ => exact ⟨well, rfl, rfl⟩

theorem answer_execute (well : state.Well) (isOpen : state.isOpen session = true)
    (statement : Statement) :
    state.answer session (.execute statement) =
      (((state.note statement).respond statement).1,
        .ok ((state.note statement).respond statement).2) := by
  rw [answer, if_pos isOpen, well.faults]
  rw [Fault.strike, ← well.faults]
  dsimp only
  have noted := (keeps_note well statement).well
  rw [withhold, (keeps_respond noted statement).well.rowless]
  rfl

theorem healthy : Healthy server outlook where
  connect {state} well := by
    have fresh : state.opened ∉ state.ended := fun ended => Nat.lt_irrefl _ (well.ended _ ended)
    refine ⟨_, _, connect_eq well, ?_, ⟨⟨?_, fun _ isOpen => isOpen⟩, rfl, fun _ free => free⟩⟩
    · change (!state.ended.contains state.opened) = true
      simpa using fresh
    · exact { well with ended := fun session ended => Nat.lt_succ_of_lt (well.ended session ended) }
  prepare {state session} statement well isOpen :=
    ⟨state, {}, answer_prepare well isOpen statement, ⟨well, fun _ isOpen => isOpen⟩, rfl,
      fun _ free => free⟩
  execute {state session} statement well isOpen := by
    have noted := keeps_note well statement
    have responded := keeps_respond noted.well statement
    refine ⟨_, _, answer_execute well isOpen statement,
      ⟨responded.well, fun session isOpen => ?_⟩, ?_⟩
    · change (!((state.note statement).respond statement).1.ended.contains session) = true
      rw [responded.ended, noted.ended]
      exact isOpen
    · cases statement with
      | tryLock key =>
          refine ⟨responded.total.trans noted.total, fun _ => ?_⟩
          rw [respond, noted.well.locks]
          rfl
      | count => exact congrArg Except.ok noted.total
      | _ => exact trivial

end Roster.Simulation.DatabaseServer
