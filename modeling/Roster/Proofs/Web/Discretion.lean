import Roster.Web.Front

/-! What the answers to requests do not tell: for which reason the store has failed, and in which of
its operations. A service whose store gives other texts for the same failures gives the same
answers. -/

namespace Roster

/-! A cache does not look at errors. -/

namespace Cache

variable {K V E F : Type} (change : E → F)

/-- The same notice with another error. -/
def Notice.mapError (notice : Notice V E) : Notice V F :=
  ⟨notice.ticket, notice.result.map fun result => result.mapError change⟩

namespace Coalescing

variable [BEq K] [Hashable K]

theorem close_mapError (lead : Lead K) (cache : Coalescing K V)
    (result : Option (Except E V)) :
    lead.close cache (result.map fun result => result.mapError change) =
      ((lead.close cache result).1, (lead.close cache result).2.1,
        (lead.close cache result).2.2.map (·.mapError change)) := by
  obtain ⟨_ | key⟩ := lead
  · rfl
  · simp [Lead.close, Notice.mapError]

theorem drop_mapError (lead : Lead K) (cache : Coalescing K V) :
    (lead.drop cache : Coalescing K V × List (Notice V F)) =
      ((lead.drop cache : Coalescing K V × List (Notice V E)).1,
        (lead.drop cache).2.map (·.mapError change)) := by
  have close := close_mapError change lead cache none
  rw [Lead.drop, Lead.drop]
  exact congrArg Prod.snd close

theorem complete_mapError (cache : Coalescing K V) (lead : Lead K) (result : Except E V) :
    cache.complete lead (result.mapError change) =
      ((cache.complete lead result).1, (cache.complete lead result).2.map (·.mapError change)) := by
  have close := close_mapError change lead cache (some result)
  simp only [complete, Lead.complete]
  change lead.close cache (some (result.mapError change)) = _ at close
  rw [close]
  have drop := drop_mapError change (lead.close cache (some result)).1
    (lead.close cache (some result)).2.1
  dsimp only
  rw [drop, List.map_append]

theorem finish_mapError (cache : Coalescing K V) (call : Call K) (result : Except E V)
    (now : Instant) :
    cache.finish call (result.mapError change) now =
      ((cache.finish call result now).1,
        (cache.finish call result now).2.map (·.mapError change)) := by
  cases call with
  | leading lead key generation =>
      cases result with
      | ok value => exact complete_mapError change _ lead (.ok value)
      | error error => exact complete_mapError change cache lead (.error error)
  | waiting | direct => rfl

theorem abandon_mapError (cache : Coalescing K V) (call : Call K) :
    (cache.abandon call : Coalescing K V × List (Notice V F)) =
      ((cache.abandon call : Coalescing K V × List (Notice V E)).1,
        (cache.abandon call).2.map (·.mapError change)) := by
  cases call with
  | leading lead => exact drop_mapError change lead cache
  | waiting | direct => rfl

theorem lead_mapError (cache : Coalescing K V) (key : K) (now : Instant) :
    (cache.lead key now : Coalescing K V × Begin K V × List (Notice V F)) =
      ((cache.lead key now : Coalescing K V × Begin K V × List (Notice V E)).1,
        (cache.lead key now : Coalescing K V × Begin K V × List (Notice V E)).2.1,
        (cache.lead key now).2.2.map (·.mapError change)) := by
  rw [lead, lead]
  split
  · rename_i found value _
    have complete := complete_mapError change found ⟨some key⟩ (.ok value)
    exact congrArg (fun ended => (ended.1, Begin.hit value, ended.2)) complete
  · rfl
  · rfl

theorem begin_mapError (cache : Coalescing K V) (key : K) (now : Instant) :
    (cache.begin key now : Coalescing K V × Begin K V × List (Notice V F)) =
      ((cache.begin key now : Coalescing K V × Begin K V × List (Notice V E)).1,
        (cache.begin key now : Coalescing K V × Begin K V × List (Notice V E)).2.1,
        (cache.begin key now).2.2.map (·.mapError change)) := by
  rw [begin, begin]
  split
  · rfl
  · split
    · rfl
    · exact lead_mapError change _ key now
  · rfl

end Coalescing

end Cache

namespace StoreError

/-- What remains of a failure without the texts on its cause. A refused query keeps its reason, which
is about what the client has sent. -/
def redacted : StoreError → StoreError
  | invalidQuery reason => invalidQuery reason
  | transient _ _ => transient "" ""
  | fatal _ _ => fatal "" ""

theorem ofStoreError_redacted (error : StoreError) :
    Problem.ofStoreError error.redacted = .ofStoreError error := by
  cases error <;> rfl

end StoreError

open StoreError (redacted)

/-! Readers of the page cache. -/

namespace Listing

theorem respond_redacted (query : Query) (result : Except StoreError Slice) :
    respond query (result.mapError redacted) = respond query result := by
  cases result with
  | ok => rfl
  | error error => exact congrArg Except.error error.ofStoreError_redacted

namespace Call

def Step.redacted : Step → Step
  | await call => await call
  | done result => done (result.mapError StoreError.redacted)

theorem begin_redacted (pages : PageCache) (query : Query) (now : Instant) :
    Call.begin pages query now =
      ((Call.begin pages query now).1, (Call.begin pages query now).2.1.redacted,
        (Call.begin pages query now).2.2.map (·.mapError redacted)) := by
  have silent := congrArg (fun begun => begun.2.2)
    (pages.begin_mapError (E := StoreError) redacted query now)
  rw [Call.begin]
  generalize (pages.begin query now : PageCache × _ × List Notice) = begun at silent
  obtain ⟨pages', begun, notices⟩ := begun
  dsimp only at silent
  cases begun with
  | hit slice => exact congrArg (fun notices => (pages', Step.done (.ok slice), notices)) silent
  | pending call =>
      cases call <;> exact congrArg (fun notices => (pages', Step.await _, notices)) silent

theorem onNotice_redacted (query : Query) (result : Option (Except StoreError Slice)) :
    onNotice query (result.map fun result => result.mapError redacted) =
      (onNotice query result).redacted := by
  cases result <;> rfl

theorem onAnswer_redacted (pages : PageCache) (load : Cache.Coalescing.Call Query)
    (answer : Except StoreError Slice) (now : Instant) :
    onAnswer pages load (answer.mapError redacted) now =
      ((onAnswer pages load answer now).1, (onAnswer pages load answer now).2.1.redacted,
        (onAnswer pages load answer now).2.2.map (·.mapError redacted)) := by
  rw [onAnswer, Cache.Coalescing.finish_mapError]
  rfl

theorem cancel_redacted (pages : PageCache) (call : Call) :
    call.cancel pages =
      ((call.cancel pages).1, (call.cancel pages).2.map (·.mapError redacted)) := by
  cases call with
  | waiting => rfl
  | loading query load => exact pages.abandon_mapError redacted load

end Call

end Listing

namespace Reader

def redacted : Reader → Reader
  | told query notice => told query (notice.map fun result => result.mapError StoreError.redacted)
  | returned result => returned (result.mapError StoreError.redacted)
  | reader => reader

def Event.redacted : Event → Event
  | fail error now => fail error.redacted now
  | event => event

theorem ofStep_redacted (step : Listing.Call.Step) : ofStep step.redacted = (ofStep step).redacted := by
  cases step with
  | done => rfl
  | await call => cases call <;> rfl

theorem hear_redacted (notices : List Listing.Call.Notice) (reader : Reader) :
    reader.redacted.hear (notices.map (·.mapError StoreError.redacted)) =
      (reader.hear notices).redacted := by
  cases reader with
  | waiting query ticket =>
      have found : (notices.map (·.mapError StoreError.redacted)).find?
          (fun notice => notice.ticket = ticket) =
            (notices.find? fun notice => notice.ticket = ticket).map
              (·.mapError StoreError.redacted) :=
        List.find?_map
      change hear (notices.map _) (waiting query ticket) = _
      rw [hear, hear, found]
      cases notices.find? fun notice => notice.ticket = ticket <;> rfl
  | told | loading | returned | stopped => rfl

namespace Reaction

def redacted (reaction : Reaction) : Reaction :=
  (reaction.1, reaction.2.1.map (·.mapError StoreError.redacted), reaction.2.2.redacted)

theorem ofStep_redacted (stepped : PageCache × Listing.Call.Step × List Listing.Call.Notice) :
    ofStep (stepped.1, stepped.2.1.redacted,
        stepped.2.2.map (·.mapError StoreError.redacted)) =
      (ofStep stepped).redacted :=
  congrArg (fun reader => (stepped.1, _, reader)) (Reader.ofStep_redacted stepped.2.1)

theorem ofStep_begin_redacted (pages : PageCache) (query : Listing.Query) (now : Instant) :
    (ofStep (Listing.Call.begin pages query now)).redacted =
      ofStep (Listing.Call.begin pages query now) := by
  have begun := congrArg ofStep (Listing.Call.begin_redacted pages query now)
  exact (begun.trans (ofStep_redacted _)).symm

theorem ofStep_onAnswer_redacted (pages : PageCache) (load : Cache.Coalescing.Call Listing.Query)
    (answer : Except StoreError Listing.Slice) (now : Instant) :
    ofStep (Listing.Call.onAnswer pages load (answer.mapError StoreError.redacted) now) =
      (ofStep (Listing.Call.onAnswer pages load answer now)).redacted := by
  have answered := congrArg ofStep (Listing.Call.onAnswer_redacted pages load answer now)
  exact answered.trans (ofStep_redacted _)

end Reaction

theorem react_redacted (pages : PageCache) (look : Listing.Query → Listing.Slice)
    (reader : Reader) (event : Event) :
    react pages look reader.redacted event.redacted =
      (react pages look reader event).map Reaction.redacted := by
  cases reader with
  | waiting query ticket => cases event <;> rfl
  | told query notice =>
      cases event with
      | resume =>
          have goesOn := Listing.Call.onNotice_redacted query notice
          exact congrArg (fun reader => some (pages, [], reader))
            ((congrArg ofStep goesOn).trans (ofStep_redacted _))
      | look | answer | fail | stop => rfl
  | loading query load found? =>
      cases event with
      | look | resume => cases found? <;> rfl
      | answer now =>
          cases found? with
          | none => rfl
          | some slice =>
              exact congrArg some (Reaction.ofStep_onAnswer_redacted pages load (.ok slice) now)
      | fail error now =>
          exact congrArg some (Reaction.ofStep_onAnswer_redacted pages load (.error error) now)
      | stop =>
          have silent := congrArg Prod.snd
            (Listing.Call.cancel_redacted pages (.loading query load))
          exact congrArg (fun notices => some (_, notices, stopped)) silent
  | returned | stopped => cases event <;> rfl

end Reader

namespace Web

/-! The same service with the texts on causes left out. -/

def Visit.Stage.redacted : Visit.Stage → Visit.Stage
  | listing query reader => listing query reader.redacted
  | stage => stage

def Visit.redacted (visit : Visit) : Visit := { visit with stage := visit.stage.redacted }

def Front.Event.redacted : Front.Event → Front.Event
  | read id look event seconds => read id look event.redacted seconds
  | check id count sourceOk time seconds =>
    check id (count.mapError StoreError.redacted) sourceOk time seconds
  | event => event

theorem health_redacted (count : Except StoreError Nat) (sourceOk : Bool)
    (report : Freshness.Report) :
    health (count.mapError StoreError.redacted) sourceOk report = health count sourceOk report := by
  cases count <;> rfl

namespace Front

def redacted (front : Front) : Front := { front with visits := front.visits.map Visit.redacted }

variable (front : Front)

theorem put_redacted (id : Nat) (stage : Visit.Stage) :
    (front.put id stage).redacted = front.redacted.put id stage.redacted := by
  have visits : (front.visits.modify id ({ · with stage })).map Visit.redacted =
      (front.visits.map Visit.redacted).modify id ({ · with stage := stage.redacted }) := by
    refine List.ext_getElem? fun place => ?_
    rw [List.getElem?_map, List.getElem?_modify, List.getElem?_modify, List.getElem?_map]
    cases front.visits[place]? with
    | none => rfl
    | some visit => by_cases same : id = place <;> simp [same, Visit.redacted]
  exact congrArg (fun visits => { front with visits }) visits

theorem answer_redacted (id : Nat) (response : Response) (seconds : Float) :
    (front.answer id response seconds).redacted = front.redacted.answer id response seconds := by
  have found : front.redacted.visits[id]? = front.visits[id]?.map Visit.redacted :=
    List.getElem?_map
  rw [answer, answer, found]
  cases front.visits[id]? with
  | none => rfl
  | some visit =>
      have put := front.put_redacted id (.answered (visit.request.finish response))
      exact congrArg (·.setRegistry (visit.request.record response seconds front.registry)) put

theorem tell_redacted (notices : List Listing.Call.Notice) :
    (front.tell notices).redacted =
      front.redacted.tell (notices.map (·.mapError StoreError.redacted)) := by
  have visits : ∀ visit : Visit, (visit.hear notices).redacted =
      visit.redacted.hear (notices.map (·.mapError StoreError.redacted)) := by
    rintro ⟨request, stage⟩
    cases stage with
    | listing query reader =>
        exact congrArg (fun reader => Visit.mk request (.listing query reader))
          (reader.hear_redacted notices).symm
    | entered | checking | answered | stopped => rfl
  rw [tell, tell, redacted, redacted, List.map_map, List.map_map]
  exact congrArg (fun visits => { front with visits })
    (List.map_congr_left fun visit _ => visits visit)

/-- What a client is told does not depend on the texts that come with a failure. -/
theorem settle_redacted (id : Nat) (query : Listing.Query) (seconds : Float) (reader : Reader) :
    (front.settle id query seconds reader).redacted =
      front.redacted.settle id query seconds reader.redacted := by
  cases reader with
  | returned result =>
      have same := Listing.respond_redacted query result
      rw [Reader.redacted, settle, settle, same]
      exact front.answer_redacted id _ seconds
  | stopped => exact front.put_redacted id .stopped
  | waiting | told | loading => exact front.put_redacted id (.listing query _)

theorem heed_redacted (id : Nat) (query : Listing.Query) (seconds : Float)
    (reaction : Reader.Reaction) :
    (front.heed id query seconds reaction).redacted =
      front.redacted.heed id query seconds reaction.redacted := by
  rw [heed, settle_redacted, tell_redacted]
  rfl

theorem enter_redacted (request : Request) :
    (front.enter request).redacted = front.redacted.enter request :=
  congrArg (fun visits => { front with visits }) List.map_append

theorem begin_redacted (id : Nat) (request : Request) (now : Instant) (time : Timestamp)
    (seconds : Float) :
    (front.begin id request now time seconds).redacted =
      front.redacted.begin id request now time seconds := by
  rw [begin, begin]
  cases request.task with
  | respond response => exact front.answer_redacted id response seconds
  | list query =>
      have same := Reader.Reaction.ofStep_begin_redacted front.replica.pages query now
      have heed := front.heed_redacted id query seconds
        (.ofStep (Listing.Call.begin front.replica.pages query now))
      rwa [same] at heed
  | checkHealth => exact front.put_redacted id .checking
  | expose => exact answer_redacted _ id _ seconds

theorem stage_redacted (id : Nat) :
    front.redacted.visits[id]?.map Visit.stage =
      (front.visits[id]?.map Visit.stage).map Visit.Stage.redacted := by
  rw [redacted, List.getElem?_map, Option.map_map, Option.map_map]
  rfl

theorem step_redacted (event : Event) :
    (front.step event).redacted = front.redacted.step event.redacted := by
  cases event with
  | enter request now time seconds =>
      have length : front.redacted.visits.length = front.visits.length := List.length_map _
      rw [step, begin_redacted, enter_redacted, ← length]
      rfl
  | read id look event seconds =>
      rw [Event.redacted, step, step, stage_redacted]
      cases front.visits[id]?.map Visit.stage with
      | none => rfl
      | some stage =>
          cases stage with
          | listing query reader =>
              have same := Reader.react_redacted front.replica.pages look reader event
              have unchanged : front.redacted.replica = front.replica := rfl
              simp only [Option.map_some, Visit.Stage.redacted, unchanged, same]
              cases reader.react front.replica.pages look event with
              | none => rfl
              | some reaction => exact front.heed_redacted id query seconds reaction
          | entered | checking | answered | stopped => rfl
  | check id count sourceOk time seconds =>
      rw [Event.redacted, step, step, stage_redacted]
      cases front.visits[id]?.map Visit.stage with
      | none => rfl
      | some stage =>
          cases stage with
          | checking =>
              change Front.redacted (answer _ id _ seconds) = answer _ id _ seconds
              rw [answer_redacted, health_redacted]
              rfl
          | entered | listing | answered | stopped => rfl
  | stop id =>
      change _ = front.redacted.step (.stop id)
      rw [step, step, stage_redacted]
      cases front.visits[id]?.map Visit.stage with
      | none => rfl
      | some stage =>
          cases stage with
          | checking => exact front.put_redacted id .stopped
          | entered | listing | answered | stopped => rfl
  | elsewhere change => rfl

theorem run_redacted (events : List Event) :
    (front.run events).redacted = front.redacted.run (events.map Event.redacted) := by
  induction events generalizing front with
  | nil => rfl
  | cons event events ih =>
      have later := ih (front.step event)
      rw [step_redacted] at later
      exact later

theorem responses_redacted : front.redacted.responses = front.responses := by
  rw [responses, responses, redacted, List.map_map]
  refine List.map_congr_left fun visit _ => ?_
  obtain ⟨request, stage⟩ := visit
  cases stage <;> rfl

/-- Services whose stores differ in nothing but the texts of their failures give the same responses,
and measure the same. -/
theorem run_discreet (events other : List Event)
    (same : events.map Event.redacted = other.map Event.redacted) :
    (front.run events).responses = (front.run other).responses ∧
      (front.run events).registry = (front.run other).registry := by
  have runs : (front.run events).redacted = (front.run other).redacted := by
    rw [run_redacted, run_redacted, same]
  rw [← responses_redacted, runs, responses_redacted]
  have measures : (front.run events).redacted.registry = (front.run other).redacted.registry := by
    rw [runs]
  exact ⟨rfl, measures⟩

/-! Two clients list the characters, one by joining the other's flight, and a third asks for the
state of the service, while the store fails for a reason of its own. -/

def idle : Front where
  replica := {
    client := .new 64 .zero {}
    pages := .new "page" 16 .zero
    freshness := { ttl := .zero } }

def outage (reason : String) : List Event :=
  let listing : Request := { path := "/characters" }
  let time : Timestamp := .ofMillis 0
  [.enter listing ⟨0⟩ time 0.0, .enter listing ⟨1⟩ time 0.0,
    .enter { path := "/healthcheck" } ⟨2⟩ time 0.0,
    .read 0 (fun _ => default) (.fail (.transient "query" reason) ⟨3⟩) 0.5,
    .read 1 (fun _ => default) .resume 0.5,
    .check 2 (.error (.fatal "count" reason)) true time 0.5]

theorem task_listing : Request.task { path := "/characters" } = .list {} := by
  have route : Request.route? { path := "/characters" } = some .characters := by decide +kernel
  have reads : isReading "GET" = true := by decide +kernel
  have query : (listingQuery none).toOption = some {} := by decide +kernel
  rw [Request.task, route]
  dsimp only
  rw [if_pos reads, Route.task]
  cases taken : listingQuery none with
  | error =>
      rw [taken] at query
      cases query
  | ok =>
      rw [taken] at query
      cases query
      rfl

theorem task_healthcheck : Request.task { path := "/healthcheck" } = .checkHealth := by
  have route : Request.route? { path := "/healthcheck" } = some .healthcheck := by decide +kernel
  have reads : isReading "GET" = true := by decide +kernel
  rw [Request.task, route]
  dsimp only
  rw [if_pos reads, Route.task]

theorem statuses_outage (reason : String) :
    (idle.run (outage reason)).responses.map (·.map Response.status) =
      [some 503, some 503, some 200] := by
  simp [outage, idle, run, step, enter, begin, task_listing, task_healthcheck, heed, setPages, tell,
    settle, put, Reader.Reaction.ofStep, Reader.ofStep, Visit.hear, Reader.hear,
    Listing.Call.begin, Cache.Coalescing.begin, Cache.Coalescing.new, Cache.Coalescing.lookup,
    Cache.Coalescing.join, Cache.Coalescing.waiters?, Cache.Coalescing.lead, Cache.Lru.get,
    Cache.Lru.new, bind, Except.bind, pure, Except.pure]
  rfl

theorem run_discreet_outage :
    let exposing := outage "password authentication failed"
    let plain := outage "timed out"
    exposing.map Event.redacted = plain.map Event.redacted ∧
      (idle.run exposing).responses = (idle.run plain).responses ∧
      (idle.run exposing).responses.map (·.map Response.status) =
        [some 503, some 503, some 200] := by
  intro exposing plain
  have same : exposing.map Event.redacted = plain.map Event.redacted := rfl
  exact ⟨same, (run_discreet idle exposing plain same).1, statuses_outage _⟩

end Front

end Web

end Roster
