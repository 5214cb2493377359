import Mathlib.Data.List.Perm.Subperm
import Mathlib.Data.List.Induction
import Roster.Proofs.Database.Custody

namespace Roster.Database

open scoped List

/-! A session that waits in the pool holds no lock, unless it went back there at a delicate moment: when
a call for a lock failed or was let go after the question had been sent, or when a call that gives up
a lock was let go. On all other ways out the lock is given up, or its session is ended. -/

namespace LockServer

variable {server : LockServer} {session : Session} {key : LockKey}

theorem locks_held (held : List (Session × LockKey)) (session : Session) :
    ({ server with held } : LockServer).locks session =
      (held.filter (·.1 == session)).map Prod.snd := rfl

theorem locks_take (other : Session) :
    ({ server with held := (session, key) :: server.held } : LockServer).locks other =
      if session = other then key :: server.locks other else server.locks other := by
  rw [locks_held]
  by_cases same : session = other
  · rw [if_pos same, List.filter_cons_of_pos (by simpa using same)]
    rfl
  · rw [if_neg same, List.filter_cons_of_neg (by simpa using same)]
    rfl

theorem locks_erase (other : Session) :
    ({ server with held := server.held.erase (session, key) } : LockServer).locks other =
      if session = other then (server.locks other).erase key else server.locks other := by
  rw [locks_held, locks]
  generalize server.held = held
  induction held with
  | nil => split <;> rfl
  | cons entry held ih =>
      obtain ⟨owner, taken⟩ := entry
      by_cases found : (owner, taken) = (session, key)
      · cases found
        rw [List.erase_cons_head]
        by_cases same : session = other
        · rw [if_pos same, List.filter_cons_of_pos (by simpa using same), List.map_cons,
            List.erase_cons_head]
        · rw [if_neg same, List.filter_cons_of_neg (by simpa using same)]
      · rw [List.erase_cons_tail (by simpa using found)]
        by_cases owned : owner = other
        · rw [List.filter_cons_of_pos (by simpa using owned),
            List.filter_cons_of_pos (by simpa using owned), List.map_cons, List.map_cons, ih]
          by_cases same : session = other
          · rw [if_pos same, if_pos same, List.erase_cons_tail]
            simpa [owned, same] using found
          · rw [if_neg same, if_neg same]
        · rw [List.filter_cons_of_neg (by simpa using owned),
            List.filter_cons_of_neg (by simpa using owned)]
          exact ih

theorem locks_disconnect (other : Session) :
    (server.disconnect session).locks other =
      if session = other then [] else server.locks other := by
  rw [locks, disconnect, List.filter_filter]
  by_cases same : session = other
  · rw [if_pos same, List.filter_eq_nil_iff.mpr]
    · rfl
    · simp [same]
  · rw [if_neg same, locks]
    congr 1
    refine List.filter_congr fun entry _ => ?_
    by_cases own : entry.1 = other
    · simp [own, Ne.symm same]
    · simp [own]

/-- All that happens to the locks of other sessions, and to the sessions that there are: nothing. -/
structure Spares (server after : LockServer) (session : Session) : Prop where
  others : ∀ other, session ≠ other → after.locks other = server.locks other
  opened : after.opened = server.opened

theorem spares_disconnect : server.Spares (server.disconnect session) session where
  others other apart := by rw [locks_disconnect, if_neg apart]
  opened := rfl

theorem spares_carryOut (request : Request) :
    server.Spares (server.turn.carryOut session request).1 session := by
  cases request with
  | prepare => exact ⟨fun _ _ => rfl, rfl⟩
  | execute statement =>
      rw [carryOut]
      unfold execute
      split
      · split
        · refine ⟨fun other apart => ?_, rfl⟩
          exact (locks_take other).trans (if_neg apart)
        · exact ⟨fun _ _ => rfl, rfl⟩
      · split
        · refine ⟨fun other apart => ?_, rfl⟩
          exact (locks_erase other).trans (if_neg apart)
        · exact ⟨fun _ _ => rfl, rfl⟩
      · exact ⟨fun _ _ => rfl, rfl⟩

/-- What can become of a request. What reads like a flag is what carrying it out has brought. -/
inductive Fared (server : LockServer) (session : Session) (request : Request) :
    LockServer × Except Failure Answer → Prop
  | failed {after : LockServer} {failure : Failure} (spares : server.Spares after session)
      (locks : after.locks session <+ server.locks session) :
      Fared server session request (after, .error failure)
  | carried {reply : Except Failure Answer}
      (faithful : ∀ value, reply.bind Script.readFlag = .ok value →
        reply = .ok (server.turn.carryOut session request).2) :
      Fared server session request ((server.turn.carryOut session request).1, reply)

theorem fared_answer (server : LockServer) (session : Session) (request : Request) :
    server.Fared session request (server.answer session request) := by
  have unmoved : server.Spares server.turn session := ⟨fun _ _ => rfl, rfl⟩
  rw [answer]
  split
  · exact .failed ⟨fun _ _ => rfl, rfl⟩ (List.Sublist.refl _)
  · dsimp only
    split
    · exact .carried fun _ _ => rfl
    · exact .failed unmoved (List.Sublist.refl _)
    · exact .carried nofun
    · refine .carried fun value readable => ?_
      rw [garble] at readable ⊢
      split at readable
      · rfl
      · rename_i unreadable
        cases unreadable.symm.trans readable
    · refine .failed ⟨fun other apart => ?_, rfl⟩ ?_
      · rw [locks_disconnect, if_neg apart]
        rfl
      · rw [locks_disconnect, if_pos rfl]
        exact List.nil_sublist _

theorem connect_cases (server : LockServer) :
    (∃ failure, server.connect = (server.turn, .error failure)) ∨
      server.connect = ({ server.turn with opened := server.opened + 1 }, .ok server.opened) := by
  rw [connect]
  split
  · exact .inl ⟨_, rfl⟩
  · exact .inl ⟨_, rfl⟩
  · exact .inl ⟨_, rfl⟩
  · exact .inr rfl

theorem spares_answer (server : LockServer) (session : Session) (request : Request) :
    server.Spares (server.answer session request).1 session := by
  have fared := server.fared_answer session request
  generalize server.answer session request = result at fared
  cases fared with
  | failed spares => exact spares
  | carried => exact spares_carryOut request

/-- To prepare a statement takes no lock. -/
theorem locks_prepare (server : LockServer) (session : Session) (statement : Statement) :
    (server.answer session (.prepare statement)).1.locks session <+ server.locks session := by
  have fared := server.fared_answer session (.prepare statement)
  generalize server.answer session (.prepare statement) = result at fared
  cases fared with
  | failed _ locks => exact locks
  | carried => exact List.Sublist.refl _

/-- A session without locks has the one that it has asked for if it is told so. -/
theorem locks_tryLock (none : server.locks session = []) {granted : Bool}
    (told : (server.answer session (.execute (.tryLock key))).2.bind Script.readFlag =
      .ok granted) :
    (server.answer session (.execute (.tryLock key))).1.locks session <+
      if granted then [key] else [] := by
  have fared := server.fared_answer session (.execute (.tryLock key))
  generalize server.answer session (.execute (.tryLock key)) = result at fared told
  cases fared with
  | failed => cases told
  | carried faithful =>
      have proper := faithful granted told
      rw [proper] at told
      rw [carryOut, execute] at told ⊢
      split at told
      · rename_i free
        cases told
        rw [if_pos free, if_pos rfl]
        change LockServer.locks { server with held := (session, key) :: server.held } _ <+ _
        rw [locks_take, if_pos rfl, none]
      · rename_i taken
        cases told
        rw [if_neg taken]
        exact none ▸ List.Sublist.refl _

/-- A session that has at most one lock has none if it is told what became of giving it up. -/
theorem locks_unlock (one : server.locks session <+ [key]) {released : Bool}
    (told : (server.answer session (.execute (.unlock key))).2.bind Script.readFlag =
      .ok released) :
    (server.answer session (.execute (.unlock key))).1.locks session = [] := by
  have fared := server.fared_answer session (.execute (.unlock key))
  generalize server.answer session (.execute (.unlock key)) = result at fared told
  cases fared with
  | failed => cases told
  | carried =>
      rw [carryOut, execute]
      have kept : server.locks session = [] ∨ server.locks session = [key] :=
        List.sublist_singleton.mp one
      split
      · change LockServer.locks { server with held := server.held.erase (session, key) } _ = _
        rw [locks_erase, if_pos rfl]
        rcases kept with nothing | it
        · rw [nothing]
          rfl
        · rw [it, List.erase_cons_head]
      · rename_i unheld
        refine kept.resolve_right fun it => unheld ?_
        have member : key ∈ server.locks session := it ▸ List.mem_singleton_self key
        obtain ⟨entry, found, rfl⟩ := List.mem_map.mp member
        obtain ⟨held, own⟩ := List.mem_filter.mp found
        rw [← eq_of_beq own]
        exact List.contains_iff_mem.mpr held

end LockServer

/-! Who may hold what: sessions in the pool nothing, leases their lock, and calls what they are about to
give up. -/

/-- Each session is claimed at most once, and unless it has strayed it holds no more than is claimed. -/
structure Covers (server : LockServer) (claims : List (Session × List LockKey))
    (strays : List Session) : Prop where
  fresh : ∀ session, server.opened ≤ session → server.locks session = []
  known : ∀ claim ∈ claims, claim.1 < server.opened
  distinct : (claims.map Prod.fst).Nodup
  within : ∀ claim ∈ claims, claim.1 ∈ strays ∨ server.locks claim.1 <+ claim.2

namespace Covers

variable {server after : LockServer} {claims rest : List (Session × List LockKey)}
  {strays : List Session} {session : Session} {allowed : List LockKey}

/-- Claims may be given up, and their order is of no account. -/
theorem subperm (covers : Covers server claims strays) {others : List (Session × List LockKey)}
    (fewer : others <+~ claims) : Covers server others strays where
  fresh := covers.fresh
  known claim member := covers.known claim (fewer.subset member)
  distinct := by
    obtain ⟨same, perm, sublist⟩ := fewer
    exact (perm.map Prod.fst).nodup_iff.mp ((sublist.map Prod.fst).nodup covers.distinct)
  within claim member := covers.within claim (fewer.subset member)

/-- The session of one claim goes on, and something else is claimed of it. -/
theorem revise (covers : Covers server ((session, allowed) :: rest) strays)
    (spares : server.Spares after session) {allowed' : List LockKey} {strays' : List Session}
    (more : strays ⊆ strays') (holds : session ∈ strays' ∨ after.locks session <+ allowed') :
    Covers after ((session, allowed') :: rest) strays' where
  fresh other unopened := by
    have known := covers.known _ List.mem_cons_self
    rw [spares.opened] at unopened
    rw [spares.others other (Nat.ne_of_lt (Nat.lt_of_lt_of_le known unopened))]
    exact covers.fresh other unopened
  known claim member := by
    rw [spares.opened]
    rcases List.mem_cons.mp member with rfl | old
    · exact covers.known (session, allowed) List.mem_cons_self
    · exact covers.known claim (List.mem_cons_of_mem _ old)
  distinct := covers.distinct
  within claim member := by
    rcases List.mem_cons.mp member with rfl | old
    · exact holds
    · have apart := (List.nodup_cons.mp covers.distinct).1
      have other : session ≠ claim.1 := fun same =>
        apart (List.mem_map.mpr ⟨claim, old, same.symm⟩)
      rw [spares.others claim.1 other]
      exact (covers.within claim (List.mem_cons_of_mem _ old)).imp_left fun stray => more stray

/-- A session that is opened holds nothing. -/
theorem opened (covers : Covers server rest strays)
    (locks : ∀ session, after.locks session = server.locks session)
    (count : after.opened = server.opened + 1) :
    Covers after ((server.opened, []) :: rest) strays where
  fresh session unopened := by
    rw [locks]
    exact covers.fresh session (by omega)
  known claim member := by
    rcases List.mem_cons.mp member with rfl | old
    · exact count ▸ Nat.lt_succ_self _
    · exact count ▸ Nat.lt_succ_of_lt (covers.known claim old)
  distinct := by
    rw [List.map_cons, List.nodup_cons]
    refine ⟨fun listed => ?_, covers.distinct⟩
    obtain ⟨claim, member, same⟩ := List.mem_map.mp listed
    exact Nat.lt_irrefl _ (same ▸ covers.known claim member)
  within claim member := by
    rw [locks]
    rcases List.mem_cons.mp member with rfl | old
    · exact .inr (covers.fresh _ (Nat.le_refl _) ▸ List.Sublist.refl _)
    · exact covers.within claim old

/-- A step of the server after which nobody has more locks than before. -/
theorem weaken (covers : Covers server claims strays)
    (locks : ∀ session, after.locks session <+ server.locks session)
    (count : after.opened = server.opened) : Covers after claims strays where
  fresh session unopened :=
    List.eq_nil_of_sublist_nil (covers.fresh session (count ▸ unopened) ▸ locks session)
  known claim member := count ▸ covers.known claim member
  distinct := covers.distinct
  within claim member := (covers.within claim member).imp_right (locks claim.1).trans

end Covers

namespace Call

def statement (call : Call) : Statement :=
  match call.purpose with
  | .lock => .tryLock call.key
  | .unlock => .unlock call.key

/-- What the session of a call may hold. -/
def allowed (call : Call) : List LockKey :=
  match call.purpose with
  | .lock => []
  | .unlock => [call.key]

def claim (call : Call) : Session × List LockKey := (call.session, call.allowed)

theorem allowed_of_harmless {call : Call} (harmless : call.isDelicate = false) :
    call.allowed = [] := by
  obtain ⟨_ | _, key, session, script⟩ := call
  · rfl
  · cases harmless

theorem isDelicate_of_sent {call : Call} {statement : Statement}
    (sent : call.script = .sent statement) : call.isDelicate = true := by
  obtain ⟨_ | _, key, session, script⟩ := call
  · cases sent
    rfl
  · rfl

/-- Waits for its question to be prepared, or to be answered. -/
def IsWaiting (call : Call) : Prop :=
  call.script = .begun call.statement ∨ call.script = .sent call.statement

end Call

def Lease.claim (lease : Lease) : Session × List LockKey := (lease.session, [lease.key])

namespace Custody

variable {custody : Custody} {call : Call} {id : Nat}

def claims (custody : Custody) : List (Session × List LockKey) :=
  custody.store.pool.idle.map (·, []) ++
    (custody.leases.map Lease.claim ++ custody.calls.map Call.claim)

structure Orderly (custody : Custody) : Prop where
  covers : Covers custody.store.state custody.claims custody.strays
  waiting : ∀ call ∈ custody.calls, call.IsWaiting

theorem orderly_start (capacity : Nat) : (start capacity).Orderly where
  covers := ⟨fun _ _ => rfl, nofun, List.nodup_nil, nofun⟩
  waiting := nofun

theorem perm_pick {α : Type} {list : List α} {item : α} (found : list[id]? = some item) :
    list ~ item :: list.eraseIdx id := by
  obtain ⟨bound, rfl⟩ := List.getElem?_eq_some_iff.mp found
  exact (List.getElem_cons_eraseIdx_perm bound).symm

/-- A call among all that is claimed. -/
theorem claims_call (found : custody.calls[id]? = some call) :
    custody.claims ~ call.claim :: (custody.without id).claims :=
  ((((perm_pick found).map Call.claim).append_left _).append_left _).trans
    ((List.perm_middle.append_left _).trans List.perm_middle)

theorem claims_lease {lease : Lease} (found : custody.leases[id]? = some lease) :
    custody.claims ~ lease.claim ::
      { custody with leases := custody.leases.eraseIdx id : Custody }.claims :=
  ((((perm_pick found).map Lease.claim).append_right _).append_left _).trans List.perm_middle

theorem claims_giveBack (custody : Custody) (session : Session) :
    (custody.giveBack session).claims <+~ (session, []) :: custody.claims := by
  rw [claims, giveBack, Store.giveBack, Pool.giveBack]
  split
  · exact (List.sublist_cons_self _ _).subperm
  · dsimp only [Pool.detach]
    rw [List.map_append, List.append_assoc]
    exact List.perm_middle.subperm

theorem claims_note (custody : Custody) (call : Call) :
    (custody.note call).claims = custody.claims ∧ (custody.note call).store = custody.store ∧
      (custody.note call).calls = custody.calls := by
  unfold note
  split <;> exact ⟨rfl, rfl, rfl⟩

/-- What becomes of borrowing a session. -/
inductive Lent (store : Store LockServer) : Store LockServer × Except Failure Session → Prop
  | refused {after : Store LockServer} {failure : Failure}
      (idle : after.pool.idle <+ store.pool.idle)
      (locks : ∀ session, after.state.locks session = store.state.locks session)
      (opened : after.state.opened = store.state.opened) : Lent store (after, .error failure)
  | reused {after : Store LockServer} {session : Session} (state : after.state = store.state)
      (idle : session :: after.pool.idle <+ store.pool.idle) : Lent store (after, .ok session)
  | opened {after : Store LockServer} (idle : after.pool.idle = [])
      (locks : ∀ session, after.state.locks session = store.state.locks session)
      (opened : after.state.opened = store.state.opened + 1) :
      Lent store (after, .ok store.state.opened)

theorem lent_borrow (store : Store LockServer) :
    Lent store (store.borrow LockServer.server) := by
  rw [Store.borrow, Pool.checkout]
  by_cases closed : store.pool.closed
  · rw [if_pos closed]
    exact .refused (List.Sublist.refl _) (fun _ => rfl) rfl
  · rw [if_neg closed]
    by_cases full : store.pool.capacity ≤ store.pool.lent.length
    · rw [if_pos full]
      exact .refused (List.Sublist.refl _) (fun _ => rfl) rfl
    · rw [if_neg full]
      have fewer := List.dropWhile_sublist (l := store.pool.idle)
        fun session => !LockServer.server.isOpen store.state session
      cases left : store.pool.idle.dropWhile fun session =>
          !LockServer.server.isOpen store.state session with
      | cons session idle => exact .reused rfl (left ▸ fewer)
      | nil =>
          dsimp only [LockServer.server]
          rcases store.state.connect_cases with ⟨failure, fails⟩ | opens
          · rw [fails]
            exact .refused (List.nil_sublist _) (fun _ => rfl) rfl
          · rw [opens]
            exact .opened rfl (fun _ => rfl) rfl

/-- What has been sent may still be carried out when nobody waits for the answer. -/
theorem deliver_cases (state : LockServer) (waiting : call.IsWaiting) :
    state.Spares (deliver state call) call.session ∧
      (call.isDelicate = false →
        (deliver state call).locks call.session <+ state.locks call.session) := by
  rcases waiting with begun | sent
  · rw [deliver, begun]
    exact ⟨state.spares_answer _ _, fun _ => state.locks_prepare _ _⟩
  · refine ⟨?_, fun harmless => ?_⟩
    · rw [deliver, sent]
      exact state.spares_answer _ _
    · rw [Call.isDelicate_of_sent sent] at harmless
      cases harmless

namespace Orderly

/-- A session goes back to the pool that holds nothing, or has been noted. -/
theorem giveBack {session : Session}
    (covers : Covers custody.store.state ((session, []) :: custody.claims) custody.strays)
    (waiting : ∀ call ∈ custody.calls, call.IsWaiting) : (custody.giveBack session).Orderly where
  covers := covers.subperm (claims_giveBack custody session)
  waiting := waiting

/-- A session ends, and all its locks with it. -/
theorem discard (custody : Custody) {session : Session} {allowed : List LockKey}
    (covers : Covers custody.store.state ((session, allowed) :: custody.claims) custody.strays)
    (waiting : ∀ call ∈ custody.calls, call.IsWaiting) :
    { custody with store := custody.store.discard LockServer.server session }.Orderly where
  covers := by
    have ended : Covers (custody.store.state.disconnect session)
        ((session, []) :: custody.claims) custody.strays :=
      covers.revise LockServer.spares_disconnect (List.Subset.refl _)
        (.inr (by rw [LockServer.locks_disconnect, if_pos rfl]))
    exact ended.subperm (List.sublist_cons_self _ _).subperm
  waiting := waiting

theorem settle_ok {granted : Bool}
    (covers : Covers custody.store.state
      ((call.session, if call.purpose = .lock ∧ granted then [call.key] else []) :: custody.claims)
      custody.strays)
    (waiting : ∀ call ∈ custody.calls, call.IsWaiting) :
    (custody.settle call (.ok granted)).Orderly := by
  rw [settle]
  split
  · rename_i got
    rw [if_pos got] at covers
    exact ⟨covers.subperm List.perm_middle.subperm, waiting⟩
  · rename_i lost
    rw [if_neg lost] at covers
    exact giveBack covers waiting

theorem giveBack_note {allowed : List LockKey}
    (covers : Covers custody.store.state ((call.session, allowed) :: custody.claims)
      custody.strays)
    (waiting : ∀ call ∈ custody.calls, call.IsWaiting)
    (safe : call.isDelicate = false → allowed = []) :
    ((custody.note call).giveBack call.session).Orderly := by
  obtain ⟨claims, store, calls⟩ := claims_note custody call
  refine giveBack ?_ (calls ▸ waiting)
  rw [claims, store, note]
  split
  · exact covers.revise ⟨fun _ _ => rfl, rfl⟩ (List.subset_cons_self _ _)
      (.inl List.mem_cons_self)
  · rename_i harmless
    exact safe (Bool.not_eq_true _ ▸ harmless) ▸ covers

theorem settle_error {allowed : List LockKey} {failure : Failure}
    (covers : Covers custody.store.state ((call.session, allowed) :: custody.claims)
      custody.strays)
    (waiting : ∀ call ∈ custody.calls, call.IsWaiting)
    (safe : call.isDelicate = false → allowed = []) :
    (custody.settle call (.error failure)).Orderly := by
  rw [settle]
  split
  · exact giveBack_note covers waiting safe
  · exact discard _ covers waiting

/-- A call whose question has been prepared goes on to ask it. -/
theorem onward {state : LockServer} (found : custody.calls[id]? = some call)
    (covers : Covers state (call.claim :: (custody.without id).claims) custody.strays)
    (waiting : ∀ call ∈ custody.calls, call.IsWaiting) :
    { custody.setState state with
      calls := custody.calls.set id { call with script := .sent call.statement } }.Orderly := by
  obtain ⟨bound, -⟩ := List.getElem?_eq_some_iff.mp found
  let sent : Call := { call with script := .sent call.statement }
  have placed : (custody.calls.set id sent)[id]? = some sent := List.getElem?_set_self bound
  refine ⟨covers.subperm ?_, fun other member => ?_⟩
  · have split : { custody.setState state with
        calls := custody.calls.set id sent : Custody }.claims ~ _ := claims_call placed
    rw [without] at split
    dsimp only at split
    rw [List.eraseIdx_set_eq] at split
    exact split.subperm
  · rcases List.mem_or_eq_of_mem_set member with old | rfl
    · exact waiting other old
    · exact .inr rfl

theorem locks_execute {server : LockServer} (locks : server.locks call.session <+ call.allowed)
    {granted : Bool} (told : (server.answer call.session (.execute call.statement)).2.bind
      Script.readFlag = .ok granted) :
    (server.answer call.session (.execute call.statement)).1.locks call.session <+
      if call.purpose = .lock ∧ granted then [call.key] else [] := by
  obtain ⟨_ | _, key, session, script⟩ := call
  · have held := LockServer.locks_tryLock (List.eq_nil_of_sublist_nil locks) told
    cases granted <;> exact held
  · exact (LockServer.locks_unlock locks told) ▸ List.Sublist.refl _

theorem advance (orderly : custody.Orderly) (found : custody.calls[id]? = some call) :
    (custody.advance id call).Orderly := by
  have covers := orderly.covers.subperm (claims_call found).symm.subperm
  have within := covers.within call.claim List.mem_cons_self
  have waiting : ∀ other ∈ (custody.without id).calls, other.IsWaiting := fun other member =>
    orderly.waiting other (List.mem_of_mem_eraseIdx member)
  rcases orderly.waiting call (List.mem_of_getElem? found) with begun | sent
  · have spares := custody.store.state.spares_answer call.session (.prepare call.statement)
    have locks := custody.store.state.locks_prepare call.session call.statement
    have prepared := covers.revise spares (List.Subset.refl _) (within.imp_right locks.trans)
    rw [advance_begun _ id begun]
    generalize custody.store.state.answer call.session (.prepare call.statement) = result
      at prepared ⊢
    obtain ⟨state, failure | answer⟩ := result
    · exact settle_error prepared waiting Call.allowed_of_harmless
    · exact onward found prepared orderly.waiting
  · have spares := custody.store.state.spares_answer call.session (.execute call.statement)
    rw [advance_sent _ id sent]
    generalize asked : custody.store.state.answer call.session (.execute call.statement) = result
      at spares ⊢
    obtain ⟨state, reply⟩ := result
    dsimp only
    cases told : reply.bind Script.readFlag with
    | error failure =>
        have holds := covers.revise spares (List.Subset.refl _) (.inr (List.Sublist.refl _))
        refine settle_error holds waiting fun harmless => ?_
        rw [Call.isDelicate_of_sent sent] at harmless
        cases harmless
    | ok granted =>
        refine settle_ok (covers.revise spares (List.Subset.refl _)
          (within.imp_right fun locks => ?_)) waiting
        have told' : (custody.store.state.answer call.session (.execute call.statement)).2.bind
            Script.readFlag = .ok granted := asked ▸ told
        have executed := locks_execute locks told'
        rw [asked] at executed
        exact executed

theorem abandon (orderly : custody.Orderly) (found : custody.calls[id]? = some call)
    (delivered : Bool) : (custody.abandon id call delivered).Orderly := by
  have covers := orderly.covers.subperm (claims_call found).symm.subperm
  have waiting : ∀ other ∈ (custody.without id).calls, other.IsWaiting := fun other member =>
    orderly.waiting other (List.mem_of_mem_eraseIdx member)
  have within := covers.within call.claim List.mem_cons_self
  obtain ⟨spares, locks⟩ : custody.store.state.Spares
      (if delivered then deliver custody.store.state call else custody.store.state) call.session ∧
      (call.isDelicate = false →
        (if delivered then deliver custody.store.state call else custody.store.state).locks
          call.session <+ custody.store.state.locks call.session) := by
    split
    · exact deliver_cases _ (orderly.waiting call (List.mem_of_getElem? found))
    · exact ⟨⟨fun _ _ => rfl, rfl⟩, fun _ => List.Sublist.refl _⟩
  cases delicate : call.isDelicate with
  | true =>
      have holds := covers.revise spares (List.Subset.refl _) (.inr (List.Sublist.refl _))
      refine giveBack_note holds waiting fun harmless => ?_
      rw [delicate] at harmless
      cases harmless
  | false =>
      have holds := covers.revise spares (List.Subset.refl _)
        (within.imp_right (locks delicate).trans)
      exact giveBack_note holds waiting Call.allowed_of_harmless

/-- A call begins, with a session of which nothing else is claimed. -/
theorem called {store : Store LockServer} {strays : List Session} {leases : List Lease}
    {calls : List Call} (waits : call.IsWaiting)
    (covers : Covers store.state (call.claim :: claims ⟨store, leases, calls, strays⟩) strays)
    (waiting : ∀ call ∈ calls, call.IsWaiting) :
    Orderly ⟨store, leases, call :: calls, strays⟩ where
  covers := covers.subperm ((List.perm_middle.append_left _).trans List.perm_middle).subperm
  waiting other member := by
    rcases List.mem_cons.mp member with rfl | old
    · exact waits
    · exact waiting other old

theorem acquire (orderly : custody.Orderly) (key : LockKey) :
    (custody.step (.acquire key)).Orderly := by
  have lent := lent_borrow custody.store
  have asks (session : Session) : (Call.lock key session).IsWaiting := .inl (Script.tryLock_eq key)
  have fewer {idle : List Session} (sublist : idle <+ custody.store.pool.idle) :
      idle.map (fun session => (session, ([] : List LockKey))) ++
        (custody.leases.map Lease.claim ++ custody.calls.map Call.claim) <+~ custody.claims :=
    ((sublist.map _).append_right _).subperm
  rw [step]
  generalize custody.store.borrow LockServer.server = result at lent
  cases lent with
  | refused idle locks opened =>
      exact ⟨(orderly.covers.subperm (fewer idle)).weaken
        (fun session => locks session ▸ List.Sublist.refl _) opened, orderly.waiting⟩
  | reused state idle =>
      refine called (asks _) ?_ orderly.waiting
      rw [state]
      exact orderly.covers.subperm (fewer idle)
  | opened idle locks opened =>
      refine called (asks _) (Covers.opened ?_ locks opened) orderly.waiting
      rw [claims, idle]
      exact orderly.covers.subperm (fewer (List.nil_sublist _))

theorem release (orderly : custody.Orderly) (id : Nat) :
    (custody.step (.release id)).Orderly := by
  rw [step]
  split
  · rename_i lease found
    exact called (.inl (Script.unlock_eq lease.key))
      (orderly.covers.subperm (claims_lease found).symm.subperm) orderly.waiting
  · exact orderly

theorem drop (orderly : custody.Orderly) (id : Nat) : (custody.step (.drop id)).Orderly := by
  rw [step]
  split
  · rename_i lease found
    exact discard { custody with leases := custody.leases.eraseIdx id }
      (orderly.covers.subperm (claims_lease found).symm.subperm) orderly.waiting
  · exact orderly

theorem step (orderly : custody.Orderly) (event : Event) : (custody.step event).Orderly := by
  cases event with
  | acquire key => exact orderly.acquire key
  | release id => exact orderly.release id
  | drop id => exact orderly.drop id
  | answer id =>
      rw [Custody.step]
      split
      · exact orderly.advance ‹_›
      · exact orderly
  | abandon id delivered =>
      rw [Custody.step]
      split
      · exact orderly.abandon ‹_› delivered
      · exact orderly
  | expect | others =>
      exact ⟨orderly.covers.weaken (fun _ => List.Sublist.refl _) rfl, orderly.waiting⟩
  | hangUp session =>
      refine ⟨orderly.covers.weaken (fun other => ?_) rfl, orderly.waiting⟩
      change (custody.store.state.disconnect session).locks other <+ _
      rw [LockServer.locks_disconnect]
      split
      · exact List.nil_sublist _
      · exact List.Sublist.refl _

end Orderly

theorem orderly_run (capacity : Nat) (events : List Event) :
    ((start capacity).run events).Orderly := by
  induction events using List.reverseRecOn with
  | nil => exact orderly_start capacity
  | append_singleton events event ih =>
      rw [run, List.foldl_append, List.foldl_cons, List.foldl_nil]
      exact ih.step event

/-- If no session has gone back to the pool at a delicate moment, then none that waits there holds a
lock. -/
theorem run_leaks (capacity : Nat) (events : List Event)
    (smooth : ((start capacity).run events).strays = []) :
    ∀ session ∈ ((start capacity).run events).store.pool.idle,
      ((start capacity).run events).store.state.locks session = [] := by
  intro session idle
  have covers := (orderly_run capacity events).covers
  have claimed : (session, []) ∈ ((start capacity).run events).claims :=
    List.mem_append_left _ (List.mem_map_of_mem idle)
  rcases covers.within _ claimed with stray | holds
  · rw [smooth] at stray
    cases stray
  · exact List.eq_nil_of_sublist_nil holds

/-- A lock is taken and given up; then the one call that gets it fails to give it up, and another is
refused it and a third let go in time. -/
def smooth : List Event :=
  [.acquire 7, .answer 0, .answer 0, .release 0, .answer 0, .answer 0,
    .acquire 7, .answer 0, .answer 0, .acquire 7, .answer 0, .answer 0, .acquire 7, .abandon 0 true,
    .expect [.obliging, .losing .closed], .release 0, .answer 0, .answer 0]

theorem run_leaks_smooth :
    ((start 2).run smooth).strays = [] ∧ ((start 2).run smooth).store.pool.idle = [1] ∧
      ∀ session ∈ ((start 2).run smooth).store.pool.idle,
        ((start 2).run smooth).store.state.locks session = [] :=
  ⟨rfl, rfl, run_leaks 2 smooth rfl⟩

/-- The lock is taken, but the answer does not say so. -/
def garbled : List Event :=
  [.expect [.obliging, .obliging, .garbling {}], .acquire 7, .answer 0, .answer 0]

/-- With no lease and no call left, an open session in the pool holds the lock. -/
theorem run_leaks_garbled :
    ((start 4).run garbled).leases = [] ∧ ((start 4).run garbled).calls = [] ∧
      ((start 4).run garbled).store.pool.idle = [0] ∧
      ((start 4).run garbled).store.state.isOpen 0 = true ∧
      ((start 4).run garbled).store.state.locks 0 = [7] :=
  ⟨rfl, rfl, rfl, rfl, rfl⟩

/-- The same comes of letting a call go that gives up the lock. -/
example : ((start 4).run [.acquire 7, .answer 0, .answer 0, .release 0,
    .abandon 0 false]).store.state.locks 0 = [7] := rfl

end Custody

end Roster.Database
