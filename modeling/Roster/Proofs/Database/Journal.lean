import Roster.Database.Journal
import Roster.Proofs.Character.Batch
import Roster.Proofs.Database.Table
import Roster.Proofs.Database.Transactions
import Roster.Simulation.DatabaseServer

/-! What a store sends, in which of its sessions, and in which order. No session goes back to the
pool while a transaction is under way in it. -/

namespace Roster.Database

variable {σ α β : Type}

namespace Server

theorem run_noting (server : Server σ) (session : Session) (state : σ × Journal)
    (script : Script α) :
    ∃ exchanges, script.Comes exchanges (server.run session state.1 script).2 ∧
      server.noting.run session state script =
        (((server.run session state.1 script).1, state.2 ++ exchanges.map (Note.mk session)),
          (server.run session state.1 script).2) := by
  induction script generalizing state with
  | done result => exact ⟨[], .done, by rw [List.map_nil, List.append_nil]; rfl⟩
  | send request next ih =>
      let answered := server.answer state.1 session request
      obtain ⟨exchanges, comes, runs⟩ :=
        ih answered.2 (answered.1, state.2 ++ [⟨session, request, answered.2⟩])
      refine ⟨⟨request, answered.2⟩ :: exchanges, .send comes, ?_⟩
      rw [List.map_cons, List.append_cons]
      exact runs

end Server

namespace Store

variable (server : Server σ) (store : Store (σ × Journal))

theorem borrow_noting :
    (store.borrow server.noting).map forget id = store.forget.borrow server ∧
      (store.borrow server.noting).1.state.2 = store.state.2 := by
  obtain ⟨pool, state, journal⟩ := store
  obtain ⟨connect, _, isOpen, _⟩ := server
  simp only [borrow, forget, Server.noting]
  cases pool.checkout (isOpen state) with
  | mk pool checkout =>
      cases checkout with
      | reuse session => exact ⟨rfl, rfl⟩
      | refused failure => exact ⟨rfl, rfl⟩
      | connect =>
          dsimp only
          obtain ⟨after, failure | session⟩ := connect state <;> exact ⟨rfl, rfl⟩

theorem runIn_noting (session : Session) (script : Script α) :
    (store.runIn server.noting session script).map forget id =
        store.forget.runIn server session script ∧
      ∃ exchanges, script.Comes exchanges (store.runIn server.noting session script).2 ∧
        (store.runIn server.noting session script).1.state.2 =
          store.state.2 ++ exchanges.map (Note.mk session) := by
  obtain ⟨exchanges, comes, runs⟩ := server.run_noting session store.state script
  rw [runIn, runs]
  exact ⟨rfl, exchanges, comes, rfl⟩

/-! A journal changes nothing. -/

theorem forget_run (script : Script α) :
    (store.run server.noting script).map forget id = store.forget.run server script := by
  obtain ⟨forgets, -⟩ := store.borrow_noting server
  rw [run, run, ← forgets]
  obtain ⟨lent, failure | session⟩ := store.borrow server.noting
  · rfl
  · obtain ⟨forgets, -⟩ := lent.runIn_noting server session script
    dsimp only [Prod.map, id]
    rw [← forgets]
    rfl

theorem forget_perform (operation : String) (script : Script α) :
    (store.perform server.noting operation script).map forget id =
      store.forget.perform server operation script := by
  rw [perform, perform, ← store.forget_run server script]
  rfl

theorem forget_upsert (characters : List Character) :
    (store.upsert server.noting characters).map forget id =
      store.forget.upsert server characters := by
  rw [upsert, upsert]
  split
  · rfl
  · exact store.forget_perform server _ _

theorem forget_query (query : Listing.Query) :
    (store.query server.noting query).map forget id = store.forget.query server query := by
  rw [Store.query, Store.query]
  split
  · rfl
  · rw [← store.forget_perform server]
    rfl

theorem forget_tryLock (key : LockKey) :
    (store.tryLock server.noting key).map forget id = store.forget.tryLock server key := by
  obtain ⟨forgets, -⟩ := store.borrow_noting server
  rw [tryLock, tryLock, ← forgets]
  obtain ⟨lent, failure | session⟩ := store.borrow server.noting
  · rfl
  · obtain ⟨forgets, -⟩ := lent.runIn_noting server session (.tryLock key)
    dsimp only [Prod.map, id]
    rw [← forgets]
    obtain ⟨after, failure | _ | _⟩ := lent.runIn server.noting session (.tryLock key) <;> rfl

theorem forget_release (lease : Lease) :
    (store.release server.noting lease).map forget id = store.forget.release server lease := by
  obtain ⟨forgets, -⟩ := store.runIn_noting server lease.session (.unlock lease.key)
  rw [release, release, ← forgets]
  obtain ⟨after, failure | _⟩ :=
    store.runIn server.noting lease.session (.unlock lease.key) <;> rfl

theorem state_close :
    (store.close server.noting).state =
      ((store.forget.close server).state, store.state.2) := by
  rw [close, close]
  change List.foldl _ _ store.pool.idle = (List.foldl _ _ store.pool.idle, _)
  generalize store.pool.idle = idle
  change _ = (idle.foldl server.disconnect store.state.1, _)
  generalize store.state = state
  induction idle generalizing state with
  | nil => rfl
  | cons session idle ih => exact ih _

end Store

namespace Store

theorem forget_meet (server : Server σ) (store : Store (σ × Journal)) (demand : Demand) :
    (store.meet server.noting demand).forget = store.forget.meet server demand := by
  cases demand with
  | upsert characters => exact congrArg Prod.fst (store.forget_upsert server characters)
  | query query => exact congrArg Prod.fst (store.forget_query server query)
  | count => exact congrArg Prod.fst (store.forget_run server .count)
  | ping => exact congrArg Prod.fst (store.forget_run server .ping)
  | createSchema => exact congrArg Prod.fst (store.forget_run server .createSchema)
  | tryLock key => exact congrArg Prod.fst (store.forget_tryLock server key)
  | release lease => exact congrArg Prod.fst (store.forget_release server lease)
  | drop lease => rfl
  | close =>
      rw [meet, forget, state_close]
      rfl

end Store

/-! Transactions that are under way. -/

/-- Whether a transaction is under way after a request. What ends a transaction ends it whatever the
reply is. -/
def Request.leaves (before : Bool) : Request → Bool
  | .execute .start => true
  | .execute .commit | .execute .rollback => false
  | _ => before

def underWay (before : Bool) (exchanges : List Exchange) : Bool :=
  exchanges.foldl (fun before exchange => exchange.request.leaves before) before

@[simp] theorem underWay_append (before : Bool) (earlier later : List Exchange) :
    underWay before (earlier ++ later) = underWay (underWay before earlier) later :=
  List.foldl_append

theorem Asked.underWay_eq {statement : Statement} {exchanges : List Exchange}
    {reply : Except Failure Answer} (asked : Asked statement exchanges reply) (before : Bool) :
    underWay before exchanges = (Request.execute statement).leaves before := by
  cases asked with
  | plain => rfl
  | refused prepared => cases statement <;> first | rfl | cases prepared
  | executed prepared => cases statement <;> rfl

theorem Proceeds.underWay_eq {statements : List Statement} {exchanges : List Exchange}
    {outcome : Except Failure (List Answer)} (proceeds : Proceeds statements exchanges outcome)
    (before : Bool) : underWay before exchanges = false := by
  induction proceeds generalizing before with
  | committed asked => exact asked.underWay_eq before
  | uncommitted asked => exact asked.underWay_eq before
  | succeeded asked heeded onward ih => rw [underWay_append, ih]
  | failed asked heeded =>
      rw [underWay_append]
      rfl

/-- When the script has come to its end no transaction is under way. -/
def Script.Tidy (script : Script α) : Prop :=
  ∀ (exchanges : List Exchange) (result : Except Failure α), script.Comes exchanges result →
    underWay false exchanges = false

theorem Script.tidy_one {statement : Statement} (other : statement ≠ .start)
    (read : Answer → Except Failure α) : (Script.one statement read).Tidy := by
  intro exchanges result comes
  obtain ⟨reply, asked, -⟩ := comes.one
  rw [asked.underWay_eq]
  cases statement <;> first | rfl | exact absurd rfl other

theorem Transacts.underWay_eq {statements : List Statement} {exchanges : List Exchange}
    {outcome : Except Failure (List Answer)} (transacts : Transacts statements exchanges outcome) :
    underWay false exchanges = false := by
  obtain ⟨_, proceeds, -⟩ := transacts
  exact proceeds.underWay_eq false

theorem Script.tidy_upsert (characters : List Character) : (Script.upsert characters).Tidy := by
  intro exchanges result comes
  obtain ⟨_, transacts, -⟩ := comes.upsert
  exact transacts.underWay_eq

theorem Script.tidy_query (query : Listing.Query) : (Script.query query).Tidy := by
  intro exchanges result comes
  obtain ⟨_, transacts, -⟩ := comes.query
  exact transacts.underWay_eq

namespace Journal

/-- What has taken place in a session. -/
def within (journal : Journal) (session : Session) : List Exchange :=
  (journal.filter (·.session = session)).map Note.exchange

/-- In no session is a transaction under way. -/
def Quiet (journal : Journal) : Prop := ∀ session, underWay false (journal.within session) = false

theorem within_append (journal : Journal) (session other : Session)
    (exchanges : List Exchange) :
    within (journal ++ exchanges.map (Note.mk session)) other =
      journal.within other ++ if session = other then exchanges else [] := by
  rw [within, List.filter_append, List.map_append, List.filter_map]
  congr 1
  by_cases same : session = other
  · rw [if_pos same, List.filter_eq_self.mpr, List.map_map]
    · exact List.map_id exchanges
    · simp [same]
  · rw [if_neg same, List.filter_eq_nil_iff.mpr]
    · rfl
    · simp [same]

theorem Quiet.append {journal : Journal} (quiet : journal.Quiet) {exchanges : List Exchange}
    (tidy : underWay false exchanges = false) (session : Session) :
    Quiet (journal ++ exchanges.map (Note.mk session)) := by
  intro other
  rw [within_append, underWay_append, quiet]
  split
  · exact tidy
  · rfl

end Journal

namespace Store

variable {server : Server σ} {store : Store (σ × Journal)}

theorem quiet_runIn (quiet : store.state.2.Quiet) (session : Session) (script : Script α)
    (tidy : script.Tidy) : (store.runIn server.noting session script).1.state.2.Quiet := by
  obtain ⟨-, exchanges, comes, noted⟩ := store.runIn_noting server session script
  rw [noted]
  exact quiet.append (tidy _ _ comes) session

theorem quiet_borrow (quiet : store.state.2.Quiet) :
    (store.borrow server.noting).1.state.2.Quiet := by
  rw [(store.borrow_noting server).2]
  exact quiet

theorem quiet_run (quiet : store.state.2.Quiet) (script : Script α) (tidy : script.Tidy) :
    (store.run server.noting script).1.state.2.Quiet := by
  have kept : (store.borrow server.noting).1.state.2.Quiet := quiet_borrow quiet
  rw [run]
  generalize store.borrow server.noting = borrowed at kept ⊢
  obtain ⟨lent, failure | session⟩ := borrowed
  · exact kept
  · exact quiet_runIn kept session script tidy

theorem quiet_tryLock (quiet : store.state.2.Quiet) (key : LockKey) :
    (store.tryLock server.noting key).1.state.2.Quiet := by
  have kept : (store.borrow server.noting).1.state.2.Quiet := quiet_borrow quiet
  rw [tryLock]
  generalize store.borrow server.noting = borrowed at kept ⊢
  obtain ⟨lent, failure | session⟩ := borrowed
  · exact kept
  · have kept : (lent.runIn server.noting session (.tryLock key)).1.state.2.Quiet :=
      quiet_runIn kept session _ (Script.tidy_one (by nofun) _)
    dsimp only
    generalize lent.runIn server.noting session (.tryLock key) = ran at kept ⊢
    obtain ⟨after, failure | _ | _⟩ := ran <;> exact kept

theorem quiet_release (quiet : store.state.2.Quiet) (lease : Lease) :
    (store.release server.noting lease).1.state.2.Quiet := by
  have kept : (store.runIn server.noting lease.session (.unlock lease.key)).1.state.2.Quiet :=
    quiet_runIn quiet lease.session _ (Script.tidy_one (by nofun) _)
  rw [release]
  generalize store.runIn server.noting lease.session (.unlock lease.key) = ran at kept ⊢
  obtain ⟨after, failure | _⟩ := ran <;> exact kept

/-- Whatever is asked of a store, it leaves no transaction under way. -/
theorem quiet_meet (quiet : store.state.2.Quiet) (demand : Demand) :
    (store.meet server.noting demand).state.2.Quiet := by
  cases demand with
  | upsert characters =>
      rw [meet, upsert]
      split
      · exact quiet
      · exact quiet_run quiet _ (Script.tidy_upsert characters)
  | query query =>
      rw [meet, Store.query]
      split
      · exact quiet
      · exact quiet_run quiet _ (Script.tidy_query query)
  | count => exact quiet_run quiet Script.count (Script.tidy_one (by nofun) _)
  | ping => exact quiet_run quiet Script.ping (Script.tidy_one (by nofun) _)
  | createSchema => exact quiet_run quiet Script.createSchema (Script.tidy_one (by nofun) _)
  | tryLock key => exact quiet_tryLock quiet key
  | release lease => exact quiet_release quiet lease
  | drop lease => exact quiet
  | close =>
      rw [meet, state_close]
      exact quiet

theorem quiet_foldl_meet (quiet : store.state.2.Quiet) (demands : List Demand) :
    (demands.foldl (meet server.noting) store).state.2.Quiet := by
  induction demands generalizing store with
  | nil => exact quiet
  | cons demand demands ih => exact ih (quiet_meet quiet demand)

end Store

/-! What an operation sends, and what it answers. -/

/-- How a store carries out what is to be done in one session, which it gives back afterwards, or
that it sends nothing because no session is to be had. -/
inductive Serves (server : Server σ) (store : Store (σ × Journal))
    (sends : List Exchange → Except Failure α → Prop) :
    Store (σ × Journal) → Except Failure α → Prop
  | unserved {after : Store (σ × Journal)} {failure : Failure}
      (borrows : store.borrow server.noting = (after, .error failure))
      (silent : after.state.2 = store.state.2) : Serves server store sends after (.error failure)
  | served {lent after : Store (σ × Journal)} {session : Session} {exchanges : List Exchange}
      {result : Except Failure α} (borrows : store.borrow server.noting = (lent, .ok session))
      (sent : sends exchanges result)
      (noted : after.state.2 = store.state.2 ++ exchanges.map (Note.mk session))
      (back : after.pool = lent.pool.giveBack session) : Serves server store sends after result

theorem Serves.read {server : Server σ} {store after : Store (σ × Journal)}
    {sends : List Exchange → Except Failure α → Prop} {result : Except Failure α}
    {sends' : List Exchange → Except Failure β → Prop}
    (Reads : Except Failure β → Except Failure α → Prop)
    (serves : Serves server store sends after result)
    (failing : ∀ failure, Reads (.error failure) (.error failure))
    (sent : ∀ {exchanges result}, sends exchanges result →
      ∃ outcome, sends' exchanges outcome ∧ Reads outcome result) :
    ∃ outcome, Serves server store sends' after outcome ∧ Reads outcome result := by
  cases serves with
  | unserved borrows silent => exact ⟨_, .unserved borrows silent, failing _⟩
  | served borrows sends noted back =>
      obtain ⟨outcome, sends, reads⟩ := sent sends
      exact ⟨outcome, .served borrows sends noted back, reads⟩

/-- How characters are written: of several with one id the last, in the order of the ids, in pieces
of 500, of which only the last may be shorter. -/
structure Cut (characters : List Character) (pieces : List (List Character)) : Prop where
  mem_iff : ∀ character, character ∈ pieces.flatten ↔
    Batch.lastOf character.id characters = some character
  ascending : pieces.flatten.Pairwise (·.id < ·.id)
  length_le : ∀ piece ∈ pieces, 0 < piece.length ∧ piece.length ≤ 500
  length_eq : ∀ piece ∈ pieces.dropLast, piece.length = 500

theorem Cut.chunks (characters : List Character) :
    Cut characters (chunks Script.upsertChunk (Batch.ofList characters).rows) where
  mem_iff character := by rw [flatten_chunks, Batch.mem_rows, Batch.get?_ofList]
  ascending := by
    rw [flatten_chunks]
    exact (Batch.ofList characters).ascending
  length_le piece member := length_of_mem_chunks (by decide) member
  length_eq piece member := length_of_mem_dropLast_chunks (by decide) member

inductive Upserted (server : Server σ) (store : Store (σ × Journal)) :
    List Character → Store (σ × Journal) × Except StoreError Nat → Prop
  | nothing : Upserted server store [] (store, .ok 0)
  | written {characters : List Character} {pieces : List (List Character)}
      {after : Store (σ × Journal)} {outcome : Except Failure (List Answer)}
      (some : characters ≠ []) (cut : Cut characters pieces)
      (serves : Serves server store (Transacts (pieces.map .upsert)) after outcome) :
      Upserted server store characters
        (after, (outcome.map fun answers => (answers.map Answer.affected).sum).mapError
          (Failure.toStoreError "upsert"))

/-- A row that cannot be read is noticed when the transaction is over. -/
inductive Queried (server : Server σ) (store : Store (σ × Journal)) (query : Listing.Query) :
    Store (σ × Journal) × Except StoreError Listing.Slice → Prop
  | failed {after : Store (σ × Journal)} {failure : Failure}
      (serves : Serves server store (Transacts [.readOnly, .count, .select query]) after
        (.error failure)) :
      Queried server store query (after, .error (failure.toStoreError "query"))
  | read {after : Store (σ × Journal)} {ready counted selected : Answer} {total : Int64}
      (serves : Serves server store (Transacts [.readOnly, .count, .select query]) after
        (.ok [ready, counted, selected]))
      (counts : Script.readCount counted = .ok total) :
      Queried server store query
        (after, (Store.readRows selected.rows).map fun records =>
          .ofRows query records (Store.rowCount total))

namespace Store

variable (server : Server σ) (store : Store (σ × Journal))

theorem run_serves (script : Script α) :
    Serves server store script.Comes (store.run server.noting script).1
      (store.run server.noting script).2 := by
  obtain ⟨-, silent⟩ := store.borrow_noting server
  rw [run]
  cases borrows : store.borrow server.noting with
  | mk lent result =>
      rw [borrows] at silent
      cases result with
      | error failure => exact .unserved borrows silent
      | ok session =>
          obtain ⟨-, exchanges, comes, noted⟩ := lent.runIn_noting server session script
          exact .served borrows comes (noted.trans (congrArg (· ++ _) silent)) rfl

theorem upserted (characters : List Character) :
    Upserted server store characters (store.upsert server.noting characters) := by
  rw [upsert]
  cases characters with
  | nil => exact .nothing
  | cons character characters =>
      rw [if_neg (by simp), perform]
      obtain ⟨outcome, serves, reads⟩ :=
        (store.run_serves server (.upsert (character :: characters))).read
          (fun outcome : Except Failure (List Answer) => fun result =>
            result = outcome.map fun answers => (answers.map Answer.affected).sum)
          (fun _ => rfl) Script.Comes.upsert
      generalize store.run server.noting (.upsert (character :: characters)) = ran at serves reads ⊢
      obtain ⟨after, result⟩ := ran
      cases reads
      exact .written (List.cons_ne_nil _ _) (.chunks _) serves

theorem queried (query : Listing.Query) :
    Queried server store query (store.query server.noting query) := by
  rw [Store.query, if_neg (Nat.not_lt.mpr (offset_le query)), perform]
  obtain ⟨outcome, serves, reads⟩ :=
    (store.run_serves server (.query query)).read ReadsPage (fun _ => .failed)
      Script.Comes.query
  generalize store.run server.noting (.query query) = ran at serves reads ⊢
  obtain ⟨after, result⟩ := ran
  cases reads with
  | failed => exact .failed serves
  | read counts => exact .read serves counts

end Store

/-- Each upsert and each query is one transaction, which is committed only if every statement has
succeeded, and which is over when its session is lent again. The journal that tells it changes
nothing. -/
theorem Store.transacts_and_ends (server : Server σ) :
    (∀ store characters,
        Upserted server store characters (store.upsert server.noting characters)) ∧
      (∀ store query, Queried server store query (store.query server.noting query)) ∧
      (∀ (pool : Pool) (state : σ) (demands : List Demand),
        (demands.foldl (meet server.noting) ⟨pool, state, []⟩).state.2.Quiet) ∧
      (∀ (store : Store (σ × Journal)) characters,
        (store.upsert server.noting characters).map forget id =
          store.forget.upsert server characters) ∧
      (∀ (store : Store (σ × Journal)) query,
        (store.query server.noting query).map forget id = store.forget.query server query) ∧
      ∀ (store : Store (σ × Journal)) demand,
        (store.meet server.noting demand).forget = store.forget.meet server demand :=
  ⟨upserted server, queried server, fun _ _ => quiet_foldl_meet fun _ => rfl,
    forget_upsert server, forget_query server, forget_meet server⟩

/-- A query can fail although its transaction has been committed: the rows of the page are read when
the session has been given back. -/
theorem Store.query_fails_though_committed :
    ¬ ∀ (σ : Type) (server : Server σ) (pool : Pool) (state : σ) (query : Listing.Query)
      (after : Store (σ × Journal)) (error : StoreError),
      Store.query server.noting ⟨pool, state, []⟩ query = (after, .error error) →
        ∀ note ∈ after.state.2, note.exchange.request = .execute .commit →
          ∃ failure, note.exchange.reply = .error failure := by
  intro rolledBack
  obtain ⟨_, refused⟩ := rolledBack Simulation.DatabaseServer Simulation.DatabaseServer.server
    { capacity := 1 }
    { total := 1, rows := [[.int 1, .null, .text "Alive", .text "Human", .text "Earth (C-137)",
      .null, .null]] }
    {} _ (.fatal "decode" "error deserializing column 1") rfl ⟨0, .execute .commit, .ok {}⟩
    (List.mem_of_getLast? rfl) rfl
  cases refused

end Roster.Database
