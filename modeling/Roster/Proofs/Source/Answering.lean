import Roster.Proofs.Source.Stream

/-! What a client makes of the answers to its requests, and how often it asks at most. -/

namespace Roster

namespace SourceError

/-- The wait that a failure asks for, if it asks for one. -/
def retryAfter? : SourceError → Option Span
  | transient _ _ retryAfter => retryAfter
  | _ => none

end SourceError

namespace RetryPolicy

/-- How often a page is asked for at most: once at least. -/
def budget (policy : RetryPolicy) : Nat := max 1 policy.maxAttempts

theorem budget_pos (policy : RetryPolicy) : 0 < policy.budget :=
  Nat.le_max_left 1 policy.maxAttempts

/-- After one attempt the budget is spent when the number of attempts is reached. -/
theorem budget_le_iff {policy : RetryPolicy} {attempt : Nat} (tried : 0 < attempt) :
    policy.budget ≤ attempt ↔ policy.maxAttempts ≤ attempt := by
  rw [budget]
  omega

theorem le_delay (policy : RetryPolicy) (attempt draw : Nat) :
    policy.backoff attempt ≤ policy.delay attempt none draw := by
  have short := (policy.backoff attempt).nanos_lt
  rw [Span.le_def, delay, Span.nanos_add, Span.bound]
  omega

theorem delay_le (policy : RetryPolicy) (attempt draw : Nat) :
    policy.delay attempt none draw ≤ policy.backoff attempt + policy.jitter := by
  have drawn : draw % (policy.jitterMillis + 1) ≤ policy.jitterMillis :=
    Nat.le_of_lt_succ (Nat.mod_lt draw (Nat.succ_pos _))
  have whole : policy.jitter.millis * 1000000 ≤ policy.jitter.nanos :=
    Nat.div_mul_le_self _ _
  have bounded : policy.jitterMillis ≤ policy.jitter.millis := Nat.min_le_left _ _
  have jitter_le : (policy.jitterOf draw).nanos ≤ policy.jitter.nanos :=
    calc (policy.jitterOf draw).nanos
        ≤ draw % (policy.jitterMillis + 1) * 1000000 := Nat.min_le_left _ _
      _ ≤ policy.jitter.millis * 1000000 :=
          Nat.mul_le_mul_right _ (Nat.le_trans drawn bounded)
      _ ≤ policy.jitter.nanos := whole
  rw [Span.le_def, delay, Span.nanos_add, Span.nanos_add]
  omega

end RetryPolicy

namespace Source

/-- Whether an answer is a failure that is worth another attempt. -/
def isPassing : Except SourceError SourcePage → Bool
  | .ok _ => false
  | .error error => error.isTransient

/-- What a fetch comes to whose last attempt has had this answer. -/
def conclusion (page : UInt32) (attempts : Nat) :
    Except SourceError SourcePage → Except SourceError SourcePage
  | .ok found => .ok found
  | .error error =>
    if error.isTransient then .error (.unavailable page attempts error.message) else .error error

theorem conclusion_of_final {answer : Except SourceError SourcePage}
    (final : isPassing answer = false) (page : UInt32) (attempts : Nat) :
    conclusion page attempts answer = answer := by
  cases answer with
  | ok => rfl
  | error error => exact if_neg (by rw [show error.isTransient = false from final]; nofun)

/-- The pause after an attempt that has had this reply. -/
def pauseAfter (policy : RetryPolicy) (reply : Reply) (attempt : Nat) : Span :=
  match reply.page with
  | .ok _ => .zero
  | .error error => policy.delay attempt error.retryAfter? reply.draw

/-- A pause is as long as was asked for, or else as the backoff and some of the jitter. -/
theorem pauseAfter_spec (policy : RetryPolicy) {reply : Reply} {error : SourceError}
    (failed : reply.page = .error error) (attempt : Nat) :
    match error.retryAfter? with
    | some wait => pauseAfter policy reply attempt = wait
    | none =>
      policy.backoff attempt ≤ pauseAfter policy reply attempt ∧
        pauseAfter policy reply attempt ≤ policy.backoff attempt + policy.jitter := by
  rw [pauseAfter, failed]
  dsimp only
  cases error.retryAfter? with
  | some wait => rfl
  | none => exact ⟨policy.le_delay attempt reply.draw, policy.delay_le attempt reply.draw⟩

namespace Client

variable {client : Client}

/-- A page is remembered, or it is asked for. -/
inductive Fetched (client : Client) (page : UInt32) (now : Instant) : Client × Fetch.Next → Prop
  | remembered {memo : Cache.Memo UInt32 SourcePage} {found : SourcePage}
      (looks : client.memo.look page now = (memo, some found)) :
      Fetched client page now ({ client with memo }, .done (.ok found))
  | asked {memo : Cache.Memo UInt32 SourcePage}
      (looks : client.memo.look page now = (memo, none)) :
      Fetched client page now
        ({ client with
            memo, tally := { client.tally with calls := client.tally.calls + 1 } },
          .ask ⟨page, 1⟩)

theorem fetch_fetched (client : Client) (page : UInt32) (now : Instant) :
    client.Fetched page now (client.fetch page now) := by
  rw [fetch]
  split
  · rename_i looks
    exact .remembered looks
  · rename_i looks
    exact .asked looks

/-- What becomes of the answer to a request. -/
inductive Answered (client : Client) (fetch : Fetch) (reply : Reply) :
    Client × Fetch.Next → Prop
  | settled (final : isPassing reply.page = false ∨ client.retry.maxAttempts ≤ fetch.attempt)
      {memo : Cache.Memo UInt32 SourcePage}
      (keeps : memo = match reply.page with
        | .ok found => client.memo.keep fetch.page found reply.now
        | .error _ => client.memo) :
      Answered client fetch reply
        ({ client with
            memo
            tally := { client.tally with
              failures := client.tally.failures +
                (!(conclusion fetch.page fetch.attempt reply.page).isOk).toNat } },
          .done (conclusion fetch.page fetch.attempt reply.page))
  | postponed (passing : isPassing reply.page = true)
      (left : fetch.attempt < client.retry.maxAttempts) :
      Answered client fetch reply
        ({ client with tally := { client.tally with retries := client.tally.retries + 1 } },
          .pause (pauseAfter client.retry reply fetch.attempt) fetch)

theorem answer_answered (client : Client) (fetch : Fetch) (reply : Reply) :
    client.Answered fetch reply (client.answer fetch reply.page reply.draw reply.now) := by
  obtain ⟨now, draw, answer⟩ := reply
  cases answer with
  | ok page => exact .settled (.inl rfl) rfl
  | error error =>
      cases error with
      | transient page reason retryAfter =>
          rw [answer]
          dsimp only
          split
          · rename_i spent
            exact .settled (.inr spent) rfl
          · rename_i left
            exact .postponed rfl (Nat.not_le.mp left)
      | fatal | unavailable => exact .settled (.inl rfl) rfl

end Client

end Source

end Roster
