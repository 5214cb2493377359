import Roster.Database.Custody

namespace Roster.Database

/-! Calls one answer at a time. If nothing goes wrong, a call that takes a lock or gives it up comes to
what the store says at once. -/

namespace Script

theorem tryLock_eq (key : LockKey) : tryLock key = begun (.tryLock key) := rfl

theorem unlock_eq (key : LockKey) : unlock key = begun (.unlock key) := rfl

end Script

namespace Custody

variable (custody : Custody) {call : Call} {statement : Statement}

theorem advance_begun (id : Nat) (script : call.script = .begun statement) :
    custody.advance id call =
      match custody.store.state.answer call.session (.prepare statement) with
      | (state, .ok _) =>
        { custody.setState state with
          calls := custody.calls.set id { call with script := .sent statement } }
      | (state, .error failure) =>
        ((custody.without id).setState state).settle call (.error failure) := by
  rw [advance, script, Script.begun]
  dsimp only
  obtain ⟨state, failure | answer⟩ :=
    custody.store.state.answer call.session (.prepare statement) <;> rfl

theorem advance_sent (id : Nat) (script : call.script = .sent statement) :
    custody.advance id call =
      let (state, answer) := custody.store.state.answer call.session (.execute statement)
      ((custody.without id).setState state).settle call (answer.bind Script.readFlag) := by
  rw [advance, script]
  rfl

theorem calls_settle (result : Except Failure Bool) :
    (custody.settle call result).calls = custody.calls := by
  unfold settle note
  split
  · split <;> rfl
  · split
    · split <;> rfl
    · rfl

theorem run_begun (state : LockServer) (session : Session) :
    LockServer.server.run session state (.begun statement) =
      match state.answer session (.prepare statement) with
      | (state, .ok _) =>
        let (state, answer) := state.answer session (.execute statement)
        (state, answer.bind Script.readFlag)
      | (state, .error failure) => (state, .error failure) := by
  have asks : LockServer.server.answer state session (.prepare statement) =
      state.answer session (.prepare statement) := rfl
  rw [Script.begun, Server.run, asks]
  obtain ⟨state, failure | answer⟩ := state.answer session (.prepare statement) <;> rfl

/-- A call that nobody interferes with ends with what its script comes to. -/
theorem run_answers (script : call.script = .begun statement) (calls : custody.calls = [call]) :
    ∃ other : Call, other.purpose = call.purpose ∧ other.key = call.key ∧
      other.session = call.session ∧
      custody.run [.answer 0, .answer 0] =
        let (state, result) := LockServer.server.run call.session custody.store.state call.script
        ({ custody with calls := [] }.setState state).settle other result := by
  have first : custody.step (.answer 0) = custody.advance 0 call := by
    rw [step, calls]
    rfl
  rw [run, List.foldl_cons, List.foldl_cons, List.foldl_nil, first, custody.advance_begun 0 script,
    script, run_begun]
  cases custody.store.state.answer call.session (.prepare statement) with
  | mk state reply =>
      cases reply with
      | error failure =>
          have settled : (((custody.without 0).setState state).settle call (.error failure)).calls =
              [] := by
            rw [calls_settle, setState, without, calls]
            rfl
          refine ⟨call, rfl, rfl, rfl, ?_⟩
          change (((custody.without 0).setState state).settle call (.error failure)).step _ = _
          rw [step, settled]
          change ((custody.without 0).setState state).settle call _ = _
          rw [without, calls]
          rfl
      | ok answer =>
          obtain ⟨store, leases, _, strays⟩ := custody
          cases calls
          refine ⟨{ call with script := .sent statement }, rfl, rfl, rfl, ?_⟩
          change advance _ 0 { call with script := .sent statement } = _
          rw [advance_sent _ 0 rfl]
          rfl

/-- Left alone, a call for a lock does what the store does. -/
theorem run_acquire (calls : custody.calls = []) (key : LockKey) :
    (custody.run [.acquire key, .answer 0, .answer 0]).store =
        (custody.store.tryLock LockServer.server key).1 ∧
      (custody.run [.acquire key, .answer 0, .answer 0]).leases =
        match (custody.store.tryLock LockServer.server key).2 with
        | .ok (some lease) => lease :: custody.leases
        | _ => custody.leases := by
  obtain ⟨store, leases, _, strays⟩ := custody
  cases calls
  have begins (store : Store LockServer) :
      run ⟨store, leases, [], strays⟩ [.acquire key, .answer 0, .answer 0] =
        (step ⟨store, leases, [], strays⟩ (.acquire key)).run [.answer 0, .answer 0] := rfl
  rw [begins, step, Store.tryLock]
  obtain ⟨store, failure | session⟩ := store.borrow LockServer.server
  · exact ⟨rfl, rfl⟩
  · obtain ⟨⟨_, _, _, script⟩, purpose, own, same, runs⟩ :=
      run_answers ⟨store, leases, [.lock key session], strays⟩ (Script.tryLock_eq key) rfl
    cases purpose
    cases own
    cases same
    dsimp only
    rw [runs, Store.runIn]
    dsimp only [Call.lock]
    obtain ⟨state, failure | granted⟩ := LockServer.server.run session store.state (.tryLock key)
    · unfold settle note
      dsimp only
      split <;> exact ⟨rfl, rfl⟩
    · cases granted <;> exact ⟨rfl, rfl⟩

/-- Left alone, a call that gives up a lock does what the store does. -/
theorem run_release {lease : Lease} {leases : List Lease} (calls : custody.calls = [])
    (first : custody.leases = lease :: leases) :
    (custody.run [.release 0, .answer 0, .answer 0]).store =
        (custody.store.release LockServer.server lease).1 ∧
      (custody.run [.release 0, .answer 0, .answer 0]).leases = leases := by
  obtain ⟨store, _, _, strays⟩ := custody
  cases calls
  cases first
  have begins : run ⟨store, lease :: leases, [], strays⟩ [.release 0, .answer 0, .answer 0] =
      run ⟨store, leases, [.unlock lease], strays⟩ [.answer 0, .answer 0] := rfl
  obtain ⟨⟨_, _, _, script⟩, purpose, own, same, runs⟩ :=
    run_answers ⟨store, leases, [.unlock lease], strays⟩ (Script.unlock_eq lease.key) rfl
  cases purpose
  cases own
  cases same
  rw [begins, runs, Store.release, Store.runIn]
  dsimp only [Call.unlock]
  obtain ⟨state, failure | released⟩ :=
    LockServer.server.run lease.session store.state (.unlock lease.key)
  · exact ⟨rfl, rfl⟩
  · cases released <;> exact ⟨rfl, rfl⟩

end Custody

end Roster.Database
