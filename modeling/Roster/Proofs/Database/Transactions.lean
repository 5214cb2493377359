import Mathlib.Algebra.GroupWithZero.Nat
import Roster.Database.Journal
import Roster.Database.Script

/-! What the operations of a store send to the database: the statements of one transaction in turn up
to the first that fails, and then a commit if none has failed, or else a rollback. -/

namespace Roster.Database

/-- With these exchanges a script comes to this result. -/
inductive Script.Comes {α : Type} : Script α → List Exchange → Except Failure α → Prop
  | done {result : Except Failure α} : Comes (.done result) [] result
  | send {request : Request} {next : Except Failure Answer → Script α}
      {reply : Except Failure Answer} {exchanges : List Exchange} {result : Except Failure α}
      (onward : Comes (next reply) exchanges result) :
      Comes (.send request next) (⟨request, reply⟩ :: exchanges) result

/-- The exchanges that a statement takes, and the reply to it. -/
inductive Asked (statement : Statement) : List Exchange → Except Failure Answer → Prop
  | plain {reply : Except Failure Answer} (unprepared : statement.isPrepared = false) :
      Asked statement [⟨.execute statement, reply⟩] reply
  | refused {failure : Failure} (prepared : statement.isPrepared = true) :
      Asked statement [⟨.prepare statement, .error failure⟩] (.error failure)
  | executed {ready : Answer} {reply : Except Failure Answer}
      (prepared : statement.isPrepared = true) :
      Asked statement [⟨.prepare statement, .ok ready⟩, ⟨.execute statement, reply⟩] reply

/-- A reply as a transaction takes it: a count that cannot be read is a failure. -/
def Statement.heed : Statement → Except Failure Answer → Except Failure Answer
  | .count, reply => reply.bind fun answer => (Script.readCount answer).map fun _ => answer
  | _, reply => reply

/-- How statements that belong together are sent: one after the other up to the first that fails,
which is followed by a rollback, or all of them and a commit. -/
inductive Proceeds : List Statement → List Exchange → Except Failure (List Answer) → Prop
  | committed {exchanges : List Exchange} {answer : Answer}
      (asked : Asked .commit exchanges (.ok answer)) : Proceeds [] exchanges (.ok [])
  | uncommitted {exchanges : List Exchange} {failure : Failure}
      (asked : Asked .commit exchanges (.error failure)) :
      Proceeds [] exchanges (.error failure)
  | succeeded {statement : Statement} {rest : List Statement} {exchanges more : List Exchange}
      {reply : Except Failure Answer} {answer : Answer} {outcome : Except Failure (List Answer)}
      (asked : Asked statement exchanges reply) (heeded : statement.heed reply = .ok answer)
      (onward : Proceeds rest more outcome) :
      Proceeds (statement :: rest) (exchanges ++ more) (outcome.map (answer :: ·))
  | failed {statement : Statement} {rest : List Statement} {exchanges : List Exchange}
      {reply last : Except Failure Answer} {failure : Failure}
      (asked : Asked statement exchanges reply) (heeded : statement.heed reply = .error failure) :
      Proceeds (statement :: rest) (exchanges ++ [⟨.execute .rollback, last⟩]) (.error failure)

/-- A transaction of these statements, and their answers if it was committed. -/
def Transacts (statements : List Statement) (exchanges : List Exchange)
    (outcome : Except Failure (List Answer)) : Prop :=
  ∃ answers, Proceeds (.start :: statements) exchanges answers ∧ outcome = answers.map List.tail

namespace Script.Comes

variable {α β : Type} {exchanges : List Exchange} {result : Except Failure α}
  {sent : Statement}

theorem statement {next : Except Failure Answer → Script α}
    (comes : (Script.statement sent next).Comes exchanges result) :
    ∃ asked reply rest, exchanges = asked ++ rest ∧ Asked sent asked reply ∧
      (next reply).Comes rest result := by
  rw [Script.statement] at comes
  split at comes
  · rename_i prepared
    cases comes with
    | @send _ _ reply _ _ onward =>
        cases reply with
        | error failure => exact ⟨[_], .error failure, _, rfl, .refused prepared, onward⟩
        | ok ready =>
            cases onward with
            | send onward => exact ⟨[_, _], _, _, rfl, .executed prepared, onward⟩
  · rename_i unprepared
    cases comes with
    | send onward => exact ⟨[_], _, _, rfl, .plain (Bool.eq_false_iff.mpr unprepared), onward⟩

theorem one {read : Answer → Except Failure α}
    (comes : (Script.one sent read).Comes exchanges result) :
    ∃ reply, Asked sent exchanges reply ∧ result = reply.bind read := by
  obtain ⟨asked, reply, rest, rfl, asks, onward⟩ := statement comes
  cases onward with
  | done => exact ⟨reply, (List.append_nil asked).symm ▸ asks, rfl⟩

theorem rollback {failure : Failure}
    (comes : (Script.rollback failure : Script α).Comes exchanges result) :
    ∃ last, exchanges = [⟨.execute .rollback, last⟩] ∧ result = .error failure := by
  cases comes with
  | send onward =>
      cases onward with
      | done => exact ⟨_, rfl, rfl⟩

/-- After a statement in a transaction the script goes on, or has come to its end. -/
theorem step {read : Answer → Except Failure β} {next : β → Script α}
    (comes : (Script.step sent read next).Comes exchanges result) :
    ∃ asked reply, Asked sent asked reply ∧
      ((∃ value rest, reply.bind read = .ok value ∧ exchanges = asked ++ rest ∧
          (next value).Comes rest result) ∨
        ∃ failure last, reply.bind read = .error failure ∧
          exchanges = asked ++ [⟨.execute .rollback, last⟩] ∧ result = .error failure) := by
  obtain ⟨asked, reply, rest, rfl, asks, onward⟩ := statement comes
  refine ⟨asked, reply, asks, ?_⟩
  cases read : reply.bind read with
  | ok value =>
      rw [read] at onward
      exact .inl ⟨value, rest, rfl, rfl, onward⟩
  | error failure =>
      rw [read] at onward
      obtain ⟨last, rfl, rfl⟩ := onward.rollback
      exact .inr ⟨failure, last, rfl, rfl, rfl⟩

/-- One more statement of a transaction, and what is read from its answer. -/
theorem next {statement : Statement} {read : Answer → Except Failure β} {next : β → Script α}
    (rest : List Statement)
    (heeds : ∀ reply, statement.heed reply = reply.bind fun answer =>
      (read answer).map fun _ => answer)
    (comes : (Script.step statement read next).Comes exchanges result) :
    (∃ failure, Proceeds (statement :: rest) exchanges (.error failure) ∧
        result = .error failure) ∨
      ∃ answer value more, read answer = .ok value ∧ (next value).Comes more result ∧
        ∀ outcome, Proceeds rest more outcome →
          Proceeds (statement :: rest) exchanges (outcome.map (answer :: ·)) := by
  obtain ⟨asked, reply, asks, ⟨value, more, reads, rfl, onward⟩ |
    ⟨failure, last, fails, rfl, rfl⟩⟩ := step comes
  · cases reply with
    | error => cases reads
    | ok answer =>
        have reads : read answer = .ok value := reads
        have heeded : statement.heed (.ok answer) = .ok answer := by
          rw [heeds]
          change (read answer).map _ = _
          rw [reads]
          rfl
        exact .inr ⟨answer, value, more, reads, onward, fun _ => .succeeded asks heeded⟩
  · refine .inl ⟨failure, .failed asks ?_, rfl⟩
    rw [heeds]
    cases reply with
    | error =>
        cases fails
        rfl
    | ok answer =>
        have fails : read answer = .error failure := fails
        change (read answer).map _ = _
        rw [fails]
        rfl

theorem commit {value : α} (comes : (Script.commit value).Comes exchanges result) :
    ∃ outcome, Proceeds [] exchanges outcome ∧ result = outcome.map fun _ => value := by
  obtain ⟨reply, asked, rfl⟩ := one comes
  cases reply with
  | ok answer => exact ⟨.ok [], .committed asked, rfl⟩
  | error failure => exact ⟨.error failure, .uncommitted asked, rfl⟩

theorem writePieces {pieces : List (List Character)} {affected : Nat}
    {exchanges : List Exchange} {result : Except Failure Nat}
    (comes : (Script.writePieces pieces affected).Comes exchanges result) :
    ∃ outcome, Proceeds (pieces.map .upsert) exchanges outcome ∧
      result = outcome.map fun answers => affected + (answers.map Answer.affected).sum := by
  induction pieces generalizing affected exchanges with
  | nil =>
      obtain ⟨outcome, proceeds, rfl⟩ := commit comes
      cases proceeds with
      | committed asked => exact ⟨_, .committed asked, rfl⟩
      | uncommitted asked => exact ⟨_, .uncommitted asked, rfl⟩
  | cons piece pieces ih =>
      rcases next (pieces.map .upsert) (fun reply => by cases reply <;> rfl) comes with
        ⟨failure, proceeds, rfl⟩ | ⟨answer, written, more, reads, onward, proceeds⟩
      · exact ⟨_, proceeds, rfl⟩
      · cases reads
        obtain ⟨outcome, rest, rfl⟩ := ih onward
        refine ⟨_, proceeds _ rest, ?_⟩
        cases outcome with
        | error => rfl
        | ok answers => exact congrArg Except.ok (Nat.add_assoc affected answer.affected _)

theorem transaction {body : Script α} {statements : List Statement}
    (Reads : Except Failure (List Answer) → Except Failure α → Prop)
    (comes : (Script.transaction body).Comes exchanges result)
    (failing : ∀ failure, Reads (.error failure) (.error failure))
    (inside : ∀ {exchanges result}, body.Comes exchanges result →
      ∃ outcome, Proceeds statements exchanges outcome ∧ Reads outcome result) :
    ∃ outcome, Transacts statements exchanges outcome ∧ Reads outcome result := by
  rcases next statements (fun reply => by cases reply <;> rfl) comes with
    ⟨failure, proceeds, rfl⟩ | ⟨answer, _, more, -, onward, proceeds⟩
  · exact ⟨_, ⟨_, proceeds, rfl⟩, failing failure⟩
  · obtain ⟨outcome, rest, reads⟩ := inside onward
    refine ⟨outcome, ⟨_, proceeds _ rest, ?_⟩, reads⟩
    cases outcome <;> rfl

theorem upsert {characters : List Character} {exchanges : List Exchange}
    {result : Except Failure Nat} (comes : (Script.upsert characters).Comes exchanges result) :
    ∃ outcome,
      Transacts ((chunks upsertChunk (Batch.ofList characters).rows).map .upsert) exchanges
        outcome ∧
      result = outcome.map fun answers => (answers.map Answer.affected).sum := by
  rw [Script.upsert] at comes
  refine comes.transaction
    (fun outcome result => result = outcome.map fun answers => (answers.map Answer.affected).sum)
    (fun _ => rfl) fun onward => ?_
  obtain ⟨outcome, proceeds, rfl⟩ := writePieces onward
  refine ⟨outcome, proceeds, ?_⟩
  cases outcome with
  | error => rfl
  | ok => exact congrArg Except.ok (Nat.zero_add _)

end Script.Comes

/-- What is read from the answers to the three statements of a query. -/
inductive ReadsPage : Except Failure (List Answer) → Except Failure (Int64 × List Row) → Prop
  | failed {failure : Failure} : ReadsPage (.error failure) (.error failure)
  | read {ready counted selected : Answer} {total : Int64}
      (counts : Script.readCount counted = .ok total) :
      ReadsPage (.ok [ready, counted, selected]) (.ok (total, selected.rows))

theorem Script.Comes.query {query : Listing.Query} {exchanges : List Exchange}
    {result : Except Failure (Int64 × List Row)}
    (comes : (Script.query query).Comes exchanges result) :
    ∃ outcome, Transacts [.readOnly, .count, .select query] exchanges outcome ∧
      ReadsPage outcome result := by
  rw [Script.query] at comes
  refine comes.transaction ReadsPage (fun _ => .failed) fun onward => ?_
  rcases next [.count, .select query] (fun reply => by cases reply <;> rfl) onward with
    ⟨failure, proceeds, rfl⟩ | ⟨ready, _, _, -, onward, ready_proceeds⟩
  · exact ⟨_, proceeds, .failed⟩
  rcases next [.select query] (fun _ => rfl) onward with
    ⟨failure, proceeds, rfl⟩ | ⟨counted, total, _, counts, onward, counted_proceeds⟩
  · exact ⟨_, ready_proceeds _ proceeds, .failed⟩
  rcases next [] (fun reply => by cases reply <;> rfl) onward with
    ⟨failure, proceeds, rfl⟩ | ⟨selected, _, _, reads, onward, selected_proceeds⟩
  · exact ⟨_, ready_proceeds _ (counted_proceeds _ proceeds), .failed⟩
  cases reads
  obtain ⟨outcome, proceeds, rfl⟩ := commit onward
  refine ⟨_, ready_proceeds _ (counted_proceeds _ (selected_proceeds _ proceeds)), ?_⟩
  cases proceeds with
  | committed => exact .read counts
  | uncommitted => exact .failed

end Roster.Database
