import Roster.Proofs.Database.Health
import Roster.Proofs.Database.TableServer
import Roster.Proofs.Store.Operations
import Roster.Store.Operation

namespace Roster.Database

/-! A store that keeps its characters in a database answers as one that keeps them in memory, and
holds the same. -/

variable {σ α : Type} {server : Server σ} {ledger : Ledger σ} {session : Session}

theorem Persists.trans {state between after : σ} (first : Persists server ledger state between)
    (second : Persists server ledger between after) : Persists server ledger state after where
  well := second.well
  isOpen session isOpen := second.isOpen session (first.isOpen session isOpen)

/-- Carried through in a session, a script gives this value and makes this of the content. -/
def Yields (server : Server σ) (ledger : Ledger σ) (session : Session) (script : Script α)
    (before : Content) (value : α) (after : Content) : Prop :=
  ∀ state : σ, ledger.well state → server.isOpen state session = true →
    ledger.content state = before → ∃ last, server.run session state script = (last, .ok value) ∧
      Persists server ledger state last ∧ ledger.content last = after

theorem Script.readCount_eq {answer : Answer} {total : Int64}
    (counts : answer.rows = [[.int total]]) : Script.readCount answer = .ok total := by
  rw [Script.readCount, Answer.single, counts]
  rfl

/-! A statement that can be carried out is, whether it has to be prepared or not. -/

namespace Relational

variable {before after : Content} {statement : Statement} {value : α}

theorem yields_statement (relational : Relational server ledger)
    {next : Except Failure Answer → Script α}
    (possible : ∃ answer content, Executes session before statement answer content)
    (onward : ∀ answer content, Executes session before statement answer content →
      Yields server ledger session (next (.ok answer)) content value after) :
    Yields server ledger session (.statement statement next) before value after := by
  intro state well isOpen content
  subst content
  unfold Script.statement
  split
  · obtain ⟨ready, prepared, prepares, lasts, same⟩ := relational.prepare statement well isOpen
    rw [← same] at possible
    obtain ⟨between, answer, answers, lasts', executes⟩ :=
      relational.execute lasts.well (lasts.isOpen session isOpen) possible
    obtain ⟨last, runs, lasts'', content⟩ := onward answer _ (same ▸ executes) between lasts'.well
      (lasts'.isOpen session (lasts.isOpen session isOpen)) rfl
    refine ⟨last, ?_, lasts.trans (lasts'.trans lasts''), content⟩
    rw [Server.run, prepares]
    dsimp only
    rw [Server.run, answers]
    exact runs
  · obtain ⟨between, answer, answers, lasts, executes⟩ := relational.execute well isOpen possible
    obtain ⟨last, runs, lasts', content⟩ := onward answer _ executes between lasts.well
      (lasts.isOpen session isOpen) rfl
    refine ⟨last, ?_, lasts.trans lasts', content⟩
    rw [Server.run, answers]
    exact runs

theorem yields_done {content : Content} :
    Yields server ledger session (.done (.ok value)) content value content :=
  fun state well _ same => ⟨state, rfl, ⟨well, fun _ isOpen => isOpen⟩, same⟩

theorem yields_one (relational : Relational server ledger)
    {read : Answer → Except Failure α}
    (possible : ∃ answer content, Executes session before statement answer content)
    (reads : ∀ answer content, Executes session before statement answer content →
      read answer = .ok value ∧ content = after) :
    Yields server ledger session (.one statement read) before value after := by
  apply relational.yields_statement possible
  intro answer content executes
  obtain ⟨good, rfl⟩ := reads answer content executes
  change Yields server ledger session (.done (read answer)) content value content
  rw [good]
  exact yields_done

theorem yields_step (relational : Relational server ledger) {β : Type}
    {read : Answer → Except Failure β} {next : β → Script α}
    (possible : ∃ answer content, Executes session before statement answer content)
    (onward : ∀ answer content, Executes session before statement answer content →
      ∃ middle, read answer = .ok middle ∧
        Yields server ledger session (next middle) content value after) :
    Yields server ledger session (.step statement read next) before value after := by
  apply relational.yields_statement possible
  intro answer content executes
  obtain ⟨middle, reads, yields⟩ := onward answer content executes
  have bound : (Except.ok answer).bind read = .ok middle := reads
  rw [bound]
  exact yields

theorem yields_transaction (relational : Relational server ledger) {table : Batch}
    {body : Script α}
    (yields : Yields server ledger session body ⟨table, some (session, table)⟩ value after) :
    Yields server ledger session (.transaction body) ⟨table, none⟩ value after := by
  apply relational.yields_step ⟨{}, _, .start⟩
  intro answer content executes
  cases executes with
  | start => exact ⟨(), rfl, yields⟩
  | outside takes => cases takes

theorem yields_commit (relational : Relational server ledger) {table rows : Batch} :
    Yields server ledger session (.commit value) ⟨table, some (session, rows)⟩ value
      ⟨rows, none⟩ := by
  apply relational.yields_one ⟨{}, _, .commit⟩
  intro answer content executes
  cases executes with
  | commit => exact ⟨rfl, rfl⟩
  | inside takes => cases takes

/-! The operations of the store. -/

theorem yields_writePieces (relational : Relational server ledger) {table rows : Batch}
    {pieces : List (List Character)} (distinct : (pieces.flatten.map Character.id).Nodup)
    (affected : Nat) :
    Yields server ledger session (.writePieces pieces affected) ⟨table, some (session, rows)⟩
      (affected + pieces.flatten.length) ⟨rows.insertAll pieces.flatten, none⟩ := by
  induction pieces generalizing rows affected with
  | nil => exact relational.yields_commit
  | cons piece pieces ih =>
      rw [List.flatten_cons, List.map_append, List.nodup_append] at distinct
      obtain ⟨distinctPiece, distinctRest, -⟩ := distinct
      have reads := unnest_columns piece
      apply relational.yields_step
        ⟨{ affected := piece.length }, _, .inside (.upsert rfl reads distinctPiece rfl)⟩
      intro answer content executes
      cases executes with
      | inside takes =>
          cases takes with
          | upsert sends reads' _ affected' =>
              cases sends
              cases reads.symm.trans reads'
              refine ⟨answer.affected, rfl, ?_⟩
              rw [List.flatten_cons, List.length_append, ← Nat.add_assoc, ← affected',
                Batch.insertAll_append]
              exact ih distinctRest (affected + answer.affected)

theorem yields_upsert (relational : Relational server ledger) {table : Batch}
    (characters : List Character) :
    Yields server ledger session (.upsert characters) ⟨table, none⟩
      (Batch.ofList characters).size
      ⟨table.insertAll (Batch.ofList characters).rows, none⟩ := by
  apply relational.yields_transaction
  have distinct := (Batch.ofList characters).nodup_ids
  rw [Batch.ids, ← flatten_chunks Script.upsertChunk (Batch.ofList characters).rows] at distinct
  have yields : Yields server ledger session _ ⟨table, some (session, table)⟩ _ _ :=
    relational.yields_writePieces distinct 0
  rw [flatten_chunks, Nat.zero_add] at yields
  exact yields

theorem yields_count (relational : Relational server ledger) {table : Batch}
    (countable : table.size ≤ maxCount) :
    Yields server ledger session .count ⟨table, none⟩ (.ofNat table.size) ⟨table, none⟩ := by
  apply relational.yields_one
    ⟨{ rows := [[.int (.ofNat table.size)]] }, _, .outside (.count countable rfl)⟩
  intro answer content executes
  cases executes with
  | outside takes =>
      cases takes with
      | count _ counts => exact ⟨Script.readCount_eq counts, rfl⟩

theorem yields_query (relational : Relational server ledger) {table : Batch}
    (countable : table.size ≤ maxCount) (query : Listing.Query) :
    Yields server ledger session (.query query) ⟨table, none⟩
      (.ofNat table.size, pageRows table query) ⟨table, none⟩ := by
  apply relational.yields_transaction
  apply relational.yields_step ⟨{}, _, .inside .readOnly⟩
  intro answer content executes
  cases executes with | inside takes => _
  cases takes
  refine ⟨(), rfl, ?_⟩
  apply relational.yields_step
    ⟨{ rows := [[.int (.ofNat table.size)]] }, _, .inside (.count countable rfl)⟩
  intro answer content executes
  cases executes with | inside takes => _
  cases takes with | count _ counts => _
  refine ⟨_, Script.readCount_eq counts, ?_⟩
  apply relational.yields_step ⟨_, _, .inside (Takes.select_pageRows table query)⟩
  intro answer content executes
  cases executes with | inside takes => _
  obtain ⟨rows, rfl⟩ := takes.rows_of_select
  rw [← rows]
  exact ⟨_, rfl, relational.yields_commit⟩

end Relational

/-- A store over a server that does its work, with no session lent and these rows in its table. -/
structure Ready (ledger : Ledger σ) (table : Batch) (store : Store σ) : Prop where
  well : ledger.well store.state
  content : ledger.content store.state = ⟨table, none⟩
  lends : 0 < store.pool.capacity
  unlent : store.pool.lent = []
  inService : store.pool.closed = false

namespace Ready

variable {table after : Batch} {store : Store σ} {value : α} {script : Script α}

theorem run_in (ready : Ready ledger table store) {state : σ} {idle : List Session}
    (well : ledger.well state) (isOpen : server.isOpen state session = true)
    (content : ledger.content state = ⟨table, none⟩)
    (borrows : store.borrow server =
      ({ pool := Pool.lend { store.pool with idle } session, state }, .ok session))
    (yields : Yields server ledger session script ⟨table, none⟩ value ⟨after, none⟩) :
    ∃ last, store.run server script = (last, .ok value) ∧ Ready ledger after last := by
  obtain ⟨last, runs, lasts, content'⟩ := yields state well isOpen content
  let lending : Store σ := { pool := Pool.lend { store.pool with idle } session, state := last }
  have lends : 0 < (lending.giveBack session).pool.capacity := by
    simpa [Store.giveBack, lending, Pool.lend] using ready.lends
  have unlent : (lending.giveBack session).pool.lent = [] := by
    simp [Store.giveBack, lending, Pool.lend, ready.unlent]
  have inService : (lending.giveBack session).pool.closed = false := by
    simpa [Store.giveBack, lending, Pool.lend] using ready.inService
  refine ⟨lending.giveBack session, ?_, ⟨lasts.well, content', lends, unlent, inService⟩⟩
  rw [Store.run, borrows]
  dsimp only
  rw [Store.runIn, runs]

theorem run (relational : Relational server ledger) (ready : Ready ledger table store)
    (yields : ∀ session, Yields server ledger session script ⟨table, none⟩ value ⟨after, none⟩) :
    ∃ last, store.run server script = (last, .ok value) ∧ Ready ledger after last := by
  have room : store.pool.lent.length < store.pool.capacity := by
    rw [ready.unlent]
    exact ready.lends
  obtain ⟨idle, ⟨session, isOpen, borrows⟩ | borrows⟩ :=
    store.borrow_cases server ready.inService room
  · exact ready.run_in ready.well isOpen ready.content borrows (yields session)
  · obtain ⟨state, session, connects, isOpen, lasts, same⟩ := relational.connect ready.well
    exact ready.run_in lasts.well isOpen (same.trans ready.content) (borrows connects)
      (yields session)

end Ready

namespace Store

theorem readRows_ofCharacter (records : List Character) :
    readRows (records.map Row.ofCharacter) = .ok records := by
  have reads : Row.character ∘ Row.ofCharacter = fun character => pure (id character) :=
    funext Row.character_ofCharacter
  rw [readRows, List.mapM_map, reads, List.mapM_pure, List.map_id]
  rfl

theorem rowCount_ofNat {number : Nat} (small : number ≤ maxCount) :
    rowCount (.ofNat number) = number := by
  rw [rowCount, toInt_ofNat small]
  rfl

end Store

namespace Ready

variable {store : Store σ} {memory : Roster.Store.Memory}

theorem upsert (relational : Relational server ledger) (ready : Ready ledger memory.rows store)
    (characters : List Character) :
    ∃ last, store.upsert server characters = (last, .ok (memory.upsert characters).2) ∧
      Ready ledger (memory.upsert characters).1.rows last := by
  cases characters with
  | nil => exact ⟨store, rfl, ready⟩
  | cons character rest =>
      obtain ⟨last, runs, ready'⟩ :=
        ready.run relational fun _ => relational.yields_upsert (character :: rest)
      refine ⟨last, ?_, ready'⟩
      rw [Store.upsert, if_neg (by simp), Store.perform, runs]
      rfl

theorem count (relational : Relational server ledger) (ready : Ready ledger memory.rows store)
    (countable : memory.count ≤ maxCount) :
    ∃ last, store.count server = (last, .ok memory.count) ∧ Ready ledger memory.rows last := by
  obtain ⟨last, runs, ready'⟩ := ready.run relational fun _ => relational.yields_count countable
  refine ⟨last, ?_, ready'⟩
  rw [Store.count, Store.perform, runs]
  exact congrArg (fun number => (last, Except.ok number)) (Store.rowCount_ofNat countable)

theorem query (relational : Relational server ledger) (ready : Ready ledger memory.rows store)
    (countable : memory.count ≤ maxCount) (query : Listing.Query) :
    ∃ last, store.query server query = (last, .ok (memory.query query)) ∧
      Ready ledger memory.rows last := by
  obtain ⟨last, runs, ready'⟩ :=
    ready.run relational fun _ => relational.yields_query countable query
  refine ⟨last, ?_, ready'⟩
  rw [Store.query, if_neg (Nat.not_lt.mpr (offset_le query)), Store.perform, runs]
  change (last, (Store.readRows _).map _) = _
  rw [pageRows, Store.readRows_ofCharacter]
  change (last, Except.ok (Listing.Slice.ofRows query _ (Store.rowCount (.ofNat memory.count)))) = _
  rw [Store.rowCount_ofNat countable]
  rfl

theorem respond (relational : Relational server ledger) (ready : Ready ledger memory.rows store)
    (countable : memory.count ≤ maxCount) (operation : Roster.Store.Operation) :
    ∃ last, store.respond server operation = (last, .ok (memory.respond operation).2) ∧
      Ready ledger (memory.respond operation).1.rows last := by
  cases operation with
  | upsert characters =>
      obtain ⟨last, upserts, ready'⟩ := ready.upsert relational characters
      exact ⟨last, by rw [Store.respond, upserts]; rfl, ready'⟩
  | query query =>
      obtain ⟨last, queries, ready'⟩ := ready.query relational countable query
      exact ⟨last, by rw [Store.respond, queries]; rfl, ready'⟩
  | count =>
      obtain ⟨last, counts, ready'⟩ := ready.count relational countable
      exact ⟨last, by rw [Store.respond, counts]; rfl, ready'⟩

/-- What the two stores answer in turn, and what they hold in the end, as long as no more rows are
written than can be counted. -/
theorem serve (relational : Relational server ledger) (ready : Ready ledger memory.rows store)
    {written : List Character} (holds : memory.Holds written)
    (operations : List Roster.Store.Operation)
    (countable : Roster.Store.distinctIds
      (written ++ operations.flatMap Roster.Store.Operation.writes) ≤ maxCount) :
    ∃ last, store.serve server operations = (last, (memory.serve operations).2.map .ok) ∧
      Ready ledger (memory.serve operations).1.rows last := by
  induction operations generalizing store memory written with
  | nil => exact ⟨store, rfl, ready⟩
  | cons operation rest ih =>
      have now : memory.count ≤ maxCount := by
        rw [holds.count_eq]
        exact Nat.le_trans (Roster.Store.distinctIds_le_append _ _) countable
      obtain ⟨between, responds, ready'⟩ := ready.respond relational now operation
      rw [List.flatMap_cons, ← List.append_assoc] at countable
      obtain ⟨last, serves, ready''⟩ := ih ready' (holds.respond operation).1 countable
      refine ⟨last, ?_, ready''⟩
      rw [Store.serve, responds]
      dsimp only
      rw [serves]
      rfl

end Ready

/-- Begun empty, a store in a database and one in memory answer the same to the same operations and
hold the same rows: those of the map that has under each id what was last written under it. -/
theorem Relational.serve_agree (relational : Relational server ledger) {store : Store σ}
    (empty : Ready ledger {} store) (operations : List Roster.Store.Operation)
    (countable : Roster.Store.distinctIds (operations.flatMap Roster.Store.Operation.writes) ≤
      maxCount) :
    let (memory, responses) := ({} : Roster.Store.Memory).serve operations
    ∃ last, store.serve server operations = (last, responses.map .ok) ∧
      ledger.content last.state = ⟨memory.rows, none⟩ ∧
      memory.Holds (operations.flatMap Roster.Store.Operation.writes) ∧
      responses.length = operations.length ∧
      ∀ (place : Nat) (operation : Roster.Store.Operation) (response : Roster.Store.Response),
        operations[place]? = some operation → responses[place]? = some response →
        operation.Meets ((operations.take place).flatMap Roster.Store.Operation.writes)
          response := by
  have holds := Roster.Store.Memory.holds_empty
  obtain ⟨last, serves, ready⟩ := Ready.serve relational empty holds operations countable
  exact ⟨last, serves, ready.content, holds.serve operations⟩

namespace TableServer

def morty : Character := ⟨2, "Morty", "Alive", "Human", "Earth", none, none⟩

def rick : Character := ⟨1, "Rick", "Alive", "Human", "Earth", none, none⟩

/-- A later state of the same character. -/
def lostRick : Character := { rick with name := "Toxic Rick", origin := "unknown" }

def descendingNames : Listing.Query :=
  { (default : Listing.Query) with sort := .name, direction := .descending }

def operations : List Roster.Store.Operation :=
  [.upsert [rick, morty, lostRick], .query descendingNames, .count]

def emptyStore : Store TableServer := { pool := { capacity := 4 }, state := {} }

theorem ready_emptyStore : Ready TableServer.ledger {} emptyStore :=
  ⟨trivial, rfl, by decide, rfl, rfl⟩

theorem serve_operations :
    ({} : Roster.Store.Memory).serve operations =
      ((({} : Roster.Store.Memory).upsert [rick, morty, lostRick]).1,
        [.written 2, .slice ⟨[lostRick, morty], 2, false⟩, .counted 2]) := by
  have sorted : (({} : Roster.Store.Memory).upsert [rick, morty, lostRick]).1.ordered
      descendingNames = [lostRick, morty] :=
    List.mergeSort_of_pairwise (by decide)
  simp only [operations, Roster.Store.Memory.serve, Roster.Store.Memory.respond,
    Roster.Store.Memory.query, sorted]
  rfl

theorem serve_agree_lostRick :
    Relational TableServer.server TableServer.ledger ∧ Ready TableServer.ledger {} emptyStore ∧
      Roster.Store.distinctIds (operations.flatMap Roster.Store.Operation.writes) ≤ maxCount ∧
      ∃ last, emptyStore.serve TableServer.server operations = (last,
          [.ok (.written 2), .ok (.slice ⟨[lostRick, morty], 2, false⟩), .ok (.counted 2)]) ∧
        last.state.content.table.rows = [lostRick, morty] := by
  have countable : Roster.Store.distinctIds
      (operations.flatMap Roster.Store.Operation.writes) ≤ maxCount := by decide
  have agree := relational.serve_agree ready_emptyStore operations countable
  rw [serve_operations] at agree
  obtain ⟨last, serves, content, -⟩ := agree
  refine ⟨relational, ready_emptyStore, countable, last, serves, ?_⟩
  change (TableServer.ledger.content last.state).table.rows = _
  rw [content]
  decide

end TableServer

end Roster.Database
