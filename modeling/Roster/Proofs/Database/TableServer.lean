import Roster.Proofs.Database.Table

namespace Roster.Database

/-! A server that keeps one table and carries out what it is sent. Sessions are numbered as they are
opened, and none ends. -/

structure TableServer where
  content : Content := {}
  opened : Nat := 0

namespace TableServer

def take (rows : Batch) : Statement → Except Failure (Answer × Batch)
  | .ping => .ok ({}, rows)
  | .createSchema => .ok ({}, rows)
  | .readOnly => .ok ({}, rows)
  | .upsert sent =>
    if (sent.map Character.id).Nodup then
      .ok ({ affected := sent.length }, rows.insertAll sent)
    else .error (.refused "21000" "ON CONFLICT DO UPDATE command cannot affect row a second time")
  | .count =>
    if rows.size ≤ maxCount then .ok ({ rows := [[.int (.ofNat rows.size)]] }, rows)
    else .error (.refused "22003" "bigint out of range")
  | .select query => .ok ({ rows := pageRows rows query }, rows)
  | _ => .error (.refused "0A000" "not supported")

theorem take_takes {rows after : Batch} {statement : Statement} {answer : Answer}
    (possible : Takes rows statement answer after) :
    ∃ answer after, take rows statement = .ok (answer, after) ∧
      Takes rows statement answer after := by
  cases possible with
  | ping => exact ⟨_, _, rfl, .ping⟩
  | createSchema => exact ⟨_, _, rfl, .createSchema⟩
  | readOnly => exact ⟨_, _, rfl, .readOnly⟩
  | upsert sends reads distinct affected =>
      cases sends
      cases (unnest_columns _).symm.trans reads
      exact ⟨_, _, if_pos distinct, .upsert rfl (unnest_columns _) distinct rfl⟩
  | count countable counts => exact ⟨_, _, if_pos countable, .count countable rfl⟩
  | select => exact ⟨_, _, rfl, .select_pageRows rows _⟩

def carryOut (session : Session) : Content → Statement → Except Failure (Answer × Content)
  | ⟨table, none⟩, .start => .ok ({}, ⟨table, some (session, table)⟩)
  | ⟨table, none⟩, statement =>
    (take table statement).map fun (answer, after) => (answer, ⟨after, none⟩)
  | ⟨_, some (_, rows)⟩, .commit => .ok ({}, ⟨rows, none⟩)
  | ⟨table, some (_, _)⟩, .rollback => .ok ({}, ⟨table, none⟩)
  | ⟨table, some (holder, rows)⟩, statement =>
    (take rows statement).map fun (answer, after) => (answer, ⟨table, some (holder, after)⟩)

theorem carryOut_executes {session : Session} {before content : Content} {statement : Statement}
    {answer : Answer} (possible : Executes session before statement answer content) :
    ∃ answer after, carryOut session before statement = .ok (answer, after) ∧
      Executes session before statement answer after := by
  cases possible with
  | start => exact ⟨_, _, rfl, .start⟩
  | commit => exact ⟨_, _, rfl, .commit⟩
  | rollback => exact ⟨_, _, rfl, .rollback⟩
  | inside possible =>
      obtain ⟨answer, after, taken, takes⟩ := take_takes possible
      refine ⟨answer, _, ?_, .inside takes⟩
      cases possible <;> simp only [carryOut, taken] <;> rfl
  | outside possible =>
      obtain ⟨answer, after, taken, takes⟩ := take_takes possible
      refine ⟨answer, _, ?_, .outside takes⟩
      cases possible <;> simp only [carryOut, taken] <;> rfl

def connect (state : TableServer) : TableServer × Except Failure Session :=
  ({ state with opened := state.opened + 1 }, .ok state.opened)

def answer (state : TableServer) (session : Session) :
    Request → TableServer × Except Failure Answer
  | .prepare _ => (state, .ok {})
  | .execute statement =>
    match carryOut session state.content statement with
    | .ok (answer, content) => ({ state with content }, .ok answer)
    | .error failure => (state, .error failure)

def server : Server TableServer where
  connect := connect
  answer := answer
  isOpen state session := decide (session < state.opened)
  disconnect state _ := state

def ledger : Ledger TableServer := ⟨fun _ => True, content⟩

theorem relational : Relational server ledger where
  connect {state} _ := by
    refine ⟨_, _, rfl, ?_, ⟨trivial, fun session isOpen => ?_⟩, rfl⟩
    · exact decide_eq_true (Nat.lt_succ_self state.opened)
    · exact decide_eq_true (Nat.lt_succ_of_lt (of_decide_eq_true isOpen))
  prepare {state session} _ _ _ := ⟨state, {}, rfl, ⟨trivial, fun _ isOpen => isOpen⟩, rfl⟩
  execute {state session statement} _ _ possible := by
    obtain ⟨_, _, possible⟩ := possible
    obtain ⟨given, after, carriedOut, executes⟩ := carryOut_executes possible
    refine ⟨{ state with content := after }, given, ?_, ⟨trivial, fun _ isOpen => isOpen⟩, executes⟩
    change answer state session (.execute statement) = _
    rw [answer, show carryOut session state.content statement = _ from carriedOut]

end TableServer

end Roster.Database
