import Roster.Proofs.Message.Arrival
import Roster.Simulation.DatabaseServer
import Roster.Simulation.WebServer
import Roster.Source.Http
import Roster.Startup

namespace Roster

/-! How a fetch judges what a server does: it brings a page, it fails for a while, or it fails for
good. A body that does not come to its end is judged like one that cannot be read. -/

namespace Source

namespace Status

variable {status : Nat}

def Succeeds (status : Nat) : Prop := 200 ≤ status ∧ status < 300

/-- Asks to come back later. -/
def Defers (status : Nat) : Prop := status = 429 ∨ 500 ≤ status ∧ status < 600

theorem isSuccess_iff : isSuccess status = true ↔ Succeeds status := by
  simp [isSuccess, Succeeds]

theorem isServerError_iff : isServerError status = true ↔ 500 ≤ status ∧ status < 600 := by
  simp [isServerError]

theorem Defers.not_succeeds (defers : Defers status) : ¬ Succeeds status := by
  unfold Defers at defers
  unfold Succeeds
  omega

end Status

namespace Http

open Message (Deed Inflow Response)

/-! Failures that are not told by a status. -/

inductive Failure where
  | unsendable (reason : Unsendable)
  | unanswered (url : Url)
  | endless (url : Url)
  /-- The body has broken off, or its time was up. -/
  | cut
  /-- The body is complete, but it is not a page. -/
  | garbled

namespace Failure

def isDecode : Failure → Bool
  | cut => true
  | garbled => true
  | _ => false

def isBuilder : Failure → Bool
  | unsendable _ => true
  | _ => false

def text : Failure → String
  | unsendable reason => reason.message
  | unanswered url => "error sending request for url (" ++ url.render ++ ")"
  | endless url => "error following redirect for url (" ++ url.render ++ ")"
  | cut => "error decoding response body"
  | garbled => "error decoding response body"

/-- What is made of a failure. It is asked first whether it came up while a body was read. -/
def error (page : UInt32) (failure : Failure) : SourceError :=
  if failure.isDecode then .fatal page none ("undecodable payload: " ++ failure.text)
  else if failure.isBuilder then .fatal page none ("invalid request: " ++ failure.text)
  else .transient page failure.text none

end Failure

def Reply.failure? : Reply → Option Failure
  | silence url => some (.unanswered url)
  | endlessRedirects url => some (.endless url)
  | strayRedirect url => some (.unsendable (.stray url))
  | response answer =>
    if Status.isSuccess answer.status then
      match answer.body with
      | none => some .cut
      | some body => if (SourcePage.ofBytes? body).isNone then some .garbled else none
    else none

theorem pageOf_of_failure {reply : Reply} {failure : Failure}
    (fails : reply.failure? = some failure) (page : UInt32) :
    pageOf page reply = .error (failure.error page) := by
  cases reply with
  | silence | endlessRedirects | strayRedirect =>
      cases fails
      rfl
  | response response =>
      obtain ⟨status, headers, body⟩ := response
      unfold Reply.failure? at fails
      unfold pageOf
      dsimp only at fails ⊢
      split at fails
      · rename_i success
        rw [if_pos success]
        cases body with
        | none =>
            cases fails
            rfl
        | some body =>
            dsimp only at fails
            split at fails
            · rename_i unread
              rw [Option.bind_some, Option.isNone_iff_eq_none.mp unread]
              cases fails
              rfl
            · cases fails
      · cases fails

theorem pageOf_of_status {response : Response}
    (failure : ¬ Status.Succeeds response.status) (page : UInt32) :
    pageOf page (.response response) = .error (statusError page response) :=
  if_neg fun success => failure (Status.isSuccess_iff.mp success)

theorem pageOf_of_page {response : Response} {body : List UInt8} {found : SourcePage}
    (success : Status.Succeeds response.status) (whole : response.body = some body)
    (decodes : SourcePage.ofBytes? body = some found) (page : UInt32) :
    pageOf page (.response response) = .ok found := by
  rw [pageOf, if_pos (Status.isSuccess_iff.mpr success), whole, Option.bind_some, decodes]

theorem statusError_of_defers {response : Response} (defers : Status.Defers response.status)
    (page : UInt32) :
    statusError page response = .transient page ("status " ++ toString response.status)
      (RetryAfter.parse (response.values "retry-after")) :=
  if_pos (defers.imp_right Status.isServerError_iff.mpr)

theorem statusError_of_final {response : Response} (final : ¬ Status.Defers response.status)
    (page : UInt32) :
    statusError page response = .fatal page (some response.status)
      ((Status.reason? response.status).getD "unexpected status") :=
  if_neg fun defers => final (defers.imp_right Status.isServerError_iff.mp)

def isFollowed (exchange : Exchange) (response : Response) : Bool :=
  Status.isRedirect response.status && (location? exchange.url response).isSome

theorem onResponse_of_not_followed {exchange : Exchange} {response : Response}
    (stays : isFollowed exchange response = false) :
    onResponse exchange response = .done (.response response) := by
  unfold isFollowed at stays
  unfold onResponse
  split
  · rename_i redirect
    rw [redirect, Bool.true_and] at stays
    rw [Option.isSome_eq_false_iff.mp stays |> Option.isNone_iff_eq_none.mp]
  · rfl

namespace Conduct

variable {conduct : Conduct} {limit : Span} {exchange : Exchange}

/-- A response that has come in time also comes in a longer time, with the same body. -/
theorem response?_mono {longer : Span} (le : limit ≤ longer) {response : Response}
    (came : conduct.response? limit = some response) :
    ∃ response', conduct.response? longer = some response' ∧ response'.status = response.status ∧
      response'.headers = response.headers ∧
      ∀ body, response.body = some body → response'.body = some body := by
  cases conduct with
  | refuses => cases came
  | serves deeds => exact Inflow.response?_grows (Inflow.grows_within le deeds) came

def Delivers (limit : Span) (conduct : Conduct) (found : SourcePage) : Prop :=
  ∃ response body, conduct.response? limit = some response ∧
    Status.Succeeds response.status ∧ response.body = some body ∧
    SourcePage.ofBytes? body = some found

def Garbles (limit : Span) (conduct : Conduct) : Prop :=
  ∃ response body, conduct.response? limit = some response ∧
    Status.Succeeds response.status ∧ response.body = some body ∧
    SourcePage.ofBytes? body = none

/-- A success whose body does not come to its end: the connection ends before, or the time is up. -/
def CutsBody (limit : Span) (conduct : Conduct) : Prop :=
  ∃ response, conduct.response? limit = some response ∧
    Status.Succeeds response.status ∧ response.body = none

def Defers (limit : Span) (conduct : Conduct) : Prop :=
  ∃ response, conduct.response? limit = some response ∧ Status.Defers response.status

def Rejects (limit : Span) (conduct : Conduct) : Prop :=
  ∃ response, conduct.response? limit = some response ∧
    ¬ Status.Succeeds response.status ∧ ¬ Status.Defers response.status

/-- The points at which an exchange can fail on the way. -/
inductive FailsInTransit (limit : Span) : Conduct → Prop
  | refused : FailsInTransit limit refuses
  /-- No head of a response has come: the connection ends before, or the time is up. -/
  | unanswered {deeds : List (Span × Deed)}
      (silent : (Inflow.within limit.nanos deeds).response? = none) :
      FailsInTransit limit (serves deeds)
  | cut {deeds : List (Span × Deed)} (cuts : CutsBody limit (serves deeds)) :
      FailsInTransit limit (serves deeds)

/-- Who waits longer gets no other page. -/
theorem Delivers.mono {longer : Span} (le : limit ≤ longer) {found : SourcePage}
    (delivers : conduct.Delivers limit found) : conduct.Delivers longer found := by
  obtain ⟨response, body, came, success, whole, decodes⟩ := delivers
  obtain ⟨response', came', status, -, same⟩ := response?_mono le came
  exact ⟨response', body, came', status ▸ success, same body whole, decodes⟩

def IsDirect (limit : Span) (exchange : Exchange) (conduct : Conduct) : Prop :=
  ∀ response, conduct.response? limit = some response → isFollowed exchange response = false

theorem step_of_direct (direct : conduct.IsDirect limit exchange) :
    conduct.step limit exchange = .done (conduct.reply limit exchange) := by
  unfold step reply
  split
  · rfl
  · rename_i response came
    exact onResponse_of_not_followed (direct response came)

theorem isDirect_of_status {response : Response} (came : conduct.response? limit = some response)
    (status : Status.isRedirect response.status = false) : conduct.IsDirect limit exchange := by
  intro response' came'
  cases came.symm.trans came'
  rw [isFollowed, status, Bool.false_and]

/-- What a request comes to that is not led on. -/
inductive Comes (page : UInt32) (limit : Span) (exchange : Exchange) (conduct : Conduct) :
    Except SourceError SourcePage → Prop
  | delivered {found : SourcePage} (delivers : conduct.Delivers limit found) :
      Comes page limit exchange conduct (.ok found)
  | deferred {response : Response} (came : conduct.response? limit = some response)
      (defers : Status.Defers response.status) :
      Comes page limit exchange conduct
        (.error (.transient page ("status " ++ toString response.status)
          (RetryAfter.parse (response.values "retry-after"))))
  | rejected {response : Response} (came : conduct.response? limit = some response)
      (failure : ¬ Status.Succeeds response.status)
      (final : ¬ Status.Defers response.status) :
      Comes page limit exchange conduct
        (.error (.fatal page (some response.status)
          ((Status.reason? response.status).getD "unexpected status")))
  | garbled (garbles : conduct.Garbles limit) :
      Comes page limit exchange conduct (.error (Failure.garbled.error page))
  | cut (cuts : conduct.CutsBody limit) :
      Comes page limit exchange conduct (.error (Failure.cut.error page))
  | unanswered (silent : conduct.response? limit = none) :
      Comes page limit exchange conduct
        (.error ((Failure.unanswered exchange.first).error page))

theorem reply_of_response {response : Response} (came : conduct.response? limit = some response)
    (exchange : Exchange) : conduct.reply limit exchange = .response response := by
  rw [reply, came]

variable {page : UInt32} {result : Except SourceError SourcePage}

theorem Comes.sound (comes : conduct.Comes page limit exchange result) :
    pageOf page (conduct.reply limit exchange) = result := by
  cases comes with
  | delivered delivers =>
      obtain ⟨response, body, came, success, whole, decodes⟩ := delivers
      rw [reply_of_response came, pageOf_of_page success whole decodes]
  | deferred came defers =>
      rw [reply_of_response came, pageOf_of_status defers.not_succeeds,
        statusError_of_defers defers]
  | rejected came failure final =>
      rw [reply_of_response came, pageOf_of_status failure, statusError_of_final final]
  | garbled garbles =>
      obtain ⟨response, body, came, success, whole, unread⟩ := garbles
      apply pageOf_of_failure
      simp [reply_of_response came, Reply.failure?, Status.isSuccess_iff.mpr success, whole, unread]
  | cut cuts =>
      obtain ⟨response, came, success, broken⟩ := cuts
      apply pageOf_of_failure
      simp [reply_of_response came, Reply.failure?, Status.isSuccess_iff.mpr success, broken]
  | unanswered silent =>
      apply pageOf_of_failure
      rw [reply, silent]
      rfl

theorem exists_comes (page : UInt32) (limit : Span) (exchange : Exchange) (conduct : Conduct) :
    ∃ result, conduct.Comes page limit exchange result := by
  cases came : conduct.response? limit with
  | none => exact ⟨_, .unanswered came⟩
  | some response =>
      by_cases success : Status.Succeeds response.status
      · cases whole : response.body with
        | none => exact ⟨_, .cut ⟨response, came, success, whole⟩⟩
        | some body =>
            cases decodes : SourcePage.ofBytes? body with
            | none => exact ⟨_, .garbled ⟨response, body, came, success, whole, decodes⟩⟩
            | some found => exact ⟨_, .delivered ⟨response, body, came, success, whole, decodes⟩⟩
      · by_cases defers : Status.Defers response.status
        · exact ⟨_, .deferred came defers⟩
        · exact ⟨_, .rejected came success defers⟩

theorem comes_iff :
    conduct.Comes page limit exchange result ↔
      pageOf page (conduct.reply limit exchange) = result := by
  refine ⟨Comes.sound, fun same => ?_⟩
  -- The cases leave nothing out, so that the one at hand has this result.
  obtain ⟨result', comes⟩ := exists_comes page limit exchange conduct
  exact (comes.sound.symm.trans same) ▸ comes

theorem comes_ok_iff {found : SourcePage} :
    conduct.Comes page limit exchange (.ok found) ↔ conduct.Delivers limit found := by
  refine ⟨fun comes => ?_, .delivered⟩
  cases comes with
  | delivered delivers => exact delivers

theorem comes_transient_iff (whole : ¬ conduct.CutsBody limit) :
    (∃ reason retryAfter,
        conduct.Comes page limit exchange (.error (.transient page reason retryAfter))) ↔
      conduct.Defers limit ∨ conduct.FailsInTransit limit := by
  constructor
  · rintro ⟨reason, retryAfter, comes⟩
    -- What is made of a failure is computed: the result has a name before the cases are told apart.
    generalize failed : Except.error (SourceError.transient page reason retryAfter) = result at comes
    cases comes with
    | deferred came defers => exact .inl ⟨_, came, defers⟩
    | unanswered silent =>
        right
        cases conduct with
        | refuses => exact .refused
        | serves deeds => exact .unanswered silent
    | delivered => cases failed
    | rejected => cases failed
    | garbled => cases failed
    | cut => cases failed
  · rintro (⟨response, came, defers⟩ | fails)
    · exact ⟨_, _, .deferred came defers⟩
    · cases fails with
      | refused => exact ⟨_, _, .unanswered rfl⟩
      | unanswered silent => exact ⟨_, _, .unanswered silent⟩
      | cut cuts => exact absurd cuts whole

theorem comes_fatal_iff (whole : ¬ conduct.CutsBody limit) :
    (∃ status reason,
        conduct.Comes page limit exchange (.error (.fatal page status reason))) ↔
      conduct.Rejects limit ∨ conduct.Garbles limit := by
  constructor
  · rintro ⟨status, reason, comes⟩
    generalize failed : Except.error (SourceError.fatal page status reason) = result at comes
    cases comes with
    | rejected came failure final => exact .inl ⟨_, came, failure, final⟩
    | garbled garbles => exact .inr garbles
    | cut cuts => exact absurd cuts whole
    | delivered => cases failed
    | deferred => cases failed
    | unanswered => cases failed
  · rintro (⟨response, came, failure, final⟩ | garbles)
    · exact ⟨_, _, .rejected came failure final⟩
    · exact ⟨_, _, .garbled garbles⟩

/-- Something carries requests through as a server answers this one, unless it is led on. -/
def IsCarriedBy (conduct : Conduct) (limit : Span) (exchange : Exchange)
    (carry : Exchange → Reply) : Prop :=
  ∀ reply, conduct.step limit exchange = .done reply → carry exchange = reply

theorem IsCarriedBy.reply {carry : Exchange → Reply}
    (carried : conduct.IsCarriedBy limit exchange carry)
    (direct : conduct.IsDirect limit exchange) : carry exchange = conduct.reply limit exchange :=
  carried _ (step_of_direct direct)

end Conduct

end Http

end Source

namespace Simulation.WebServer

open Source.Http (Conduct Exchange)

def conduct (behaviour : Behaviour) : Conduct :=
  .serves [(.zero, .writes (written behaviour)), (.zero, .ends .closed)]

theorem response?_conduct (behaviour : Behaviour) (limit : Span) :
    (conduct behaviour).response? limit = Message.Response.ofBytes? (written behaviour) := by
  rw [← Message.Inflow.response?_closed]
  simp [conduct, Conduct.response?, Message.Inflow.within]

theorem conduct_carried (behaviours : List Behaviour) (limit : Span) {exchange : Exchange}
    (reached : isReached exchange.url = true) :
    (conduct (behaviour behaviours 0)).IsCarriedBy limit exchange
      fun start => (WebServer.exchange behaviours false start).2 := by
  intro reply done
  unfold Conduct.step at done
  rw [response?_conduct] at done
  change (run behaviours exchange [] (Source.Http.maxRedirects + 1)).2 = reply
  unfold run
  rw [if_pos reached, List.length_nil]
  cases came : Message.Response.ofBytes? (written (behaviour behaviours 0)) with
  | none =>
      rw [came] at done
      cases done
      rfl
  | some response =>
      rw [came] at done
      dsimp only at done ⊢
      rw [done]

end Simulation.WebServer

namespace Startup

open Source.Http (Conduct Exchange)

variable {σ : Type} (world : World σ) {settings : Settings.Source} {page : UInt32}
  {exchange : Exchange} {conduct : Conduct}

theorem fetch_comes (valid : Source.Http.request settings.baseUrl (some page) = .ok exchange)
    (carried : conduct.IsCarriedBy settings.requestTimeout exchange world.exchange)
    (direct : conduct.IsDirect settings.requestTimeout exchange)
    {result : Except SourceError SourcePage} :
    fetch world settings page = result ↔
      conduct.Comes page settings.requestTimeout exchange result := by
  rw [fetch, valid, Conduct.comes_iff, ← carried.reply direct]

/-- Unless the body of a success does not come to its end: a fetch brings a page just if a complete
one is delivered, it fails for a while just if it is put off or fails on the way, and it fails for
good just if it is rejected or what comes completely is no page. -/
theorem fetch_classifies
    (valid : Source.Http.request settings.baseUrl (some page) = .ok exchange)
    (carried : conduct.IsCarriedBy settings.requestTimeout exchange world.exchange)
    (direct : conduct.IsDirect settings.requestTimeout exchange)
    (whole : ¬ conduct.CutsBody settings.requestTimeout) :
    (∀ found, fetch world settings page = .ok found ↔
      conduct.Delivers settings.requestTimeout found) ∧
    ((∃ reason retryAfter, fetch world settings page = .error (.transient page reason retryAfter)) ↔
      conduct.Defers settings.requestTimeout ∨ conduct.FailsInTransit settings.requestTimeout) ∧
    ((∃ status reason, fetch world settings page = .error (.fatal page status reason)) ↔
      conduct.Rejects settings.requestTimeout ∨ conduct.Garbles settings.requestTimeout) := by
  simp only [fetch_comes world valid carried direct]
  exact ⟨fun _ => Conduct.comes_ok_iff, Conduct.comes_transient_iff whole,
    Conduct.comes_fatal_iff whole⟩

def webWorld (behaviours : List Simulation.WebServer.Behaviour) :
    World Simulation.DatabaseServer where
  server := Simulation.DatabaseServer.server
  exchange start := (Simulation.WebServer.exchange behaviours false start).2

def localSource : Settings.Source := { baseUrl := "http://127.0.0.1/characters" }

theorem localSource_reached : ∃ exchange,
    Source.Http.request localSource.baseUrl (some 1) = .ok exchange ∧
      Simulation.WebServer.isReached exchange.url = true := by
  have reached : (Source.Http.request localSource.baseUrl (some 1)).toOption.any
      (Simulation.WebServer.isReached ·.url) = true := by decide +kernel
  cases asked : Source.Http.request localSource.baseUrl (some 1) with
  | error =>
      rw [asked] at reached
      cases reached
  | ok exchange =>
      rw [asked] at reached
      exact ⟨exchange, rfl, reached⟩

def truncating : Simulation.WebServer.Behaviour :=
  .answers 200 [] "\x7b\"info\":\x7b\x7d,\"results\":[".toUTF8.toList (some 60)

def emptyPage : Simulation.WebServer.Behaviour :=
  .answers 200 [] "\x7b\"info\":\x7b\x7d,\"results\":[]\x7d".toUTF8.toList none

theorem response_truncating : ∃ response,
    Message.Response.ofBytes? (Simulation.WebServer.written truncating) = some response ∧
      response.status = 200 ∧ response.body = none := by
  have came : (Message.Response.ofBytes? (Simulation.WebServer.written truncating)).map
      (fun response => (response.status, response.body)) = some (200, none) := by decide +kernel
  obtain ⟨response, read, same⟩ := Option.map_eq_some_iff.mp came
  obtain ⟨status, body⟩ := Prod.mk.inj same
  exact ⟨response, read, status, body⟩

theorem response_emptyPage : ∃ response body,
    Message.Response.ofBytes? (Simulation.WebServer.written emptyPage) = some response ∧
      response.status = 200 ∧ response.body = some body ∧
      SourcePage.ofBytes? body = some {} := by
  have came : (Message.Response.ofBytes? (Simulation.WebServer.written emptyPage)).map
      (fun response => (response.status, response.body.bind SourcePage.ofBytes?)) =
        some (200, some {}) := by decide +kernel
  obtain ⟨response, read, same⟩ := Option.map_eq_some_iff.mp came
  obtain ⟨status, decoded⟩ := Prod.mk.inj same
  obtain ⟨body, whole, decodes⟩ := Option.bind_eq_some_iff.mp decoded
  exact ⟨response, body, read, status, whole, decodes⟩

theorem fetch_classifies_emptyPage :
    fetch (webWorld [emptyPage]) localSource 1 = .ok {} ∧
      ¬ ∃ reason retryAfter,
        fetch (webWorld [emptyPage]) localSource 1 = .error (.transient 1 reason retryAfter) := by
  obtain ⟨exchange, valid, reached⟩ := localSource_reached
  obtain ⟨response, body, read, status, whole, decodes⟩ := response_emptyPage
  let conduct := Simulation.WebServer.conduct emptyPage
  have came : conduct.response? localSource.requestTimeout = some response :=
    (Simulation.WebServer.response?_conduct emptyPage _).trans read
  have success : Source.Status.Succeeds response.status := by
    rw [status]
    exact ⟨by decide, by decide⟩
  have direct : conduct.IsDirect localSource.requestTimeout exchange :=
    Conduct.isDirect_of_status came (by rw [status]; decide)
  have uncut : ¬ conduct.CutsBody localSource.requestTimeout := by
    rintro ⟨response', came', -, broken⟩
    cases came.symm.trans came'
    cases whole.symm.trans broken
  obtain ⟨delivered, -, -⟩ := fetch_classifies (webWorld [emptyPage]) valid
    (Simulation.WebServer.conduct_carried [emptyPage] _ reached) direct uncut
  have brings := (delivered {}).mpr ⟨response, body, came, success, whole, decodes⟩
  refine ⟨brings, ?_⟩
  rintro ⟨reason, retryAfter, failed⟩
  cases brings.symm.trans failed

theorem fetch_classifies_truncating : ∃ exchange,
    Source.Http.request localSource.baseUrl (some 1) = .ok exchange ∧
      (Simulation.WebServer.conduct truncating).IsCarriedBy localSource.requestTimeout exchange
        (webWorld [truncating]).exchange ∧
      (Simulation.WebServer.conduct truncating).IsDirect localSource.requestTimeout exchange ∧
      (Simulation.WebServer.conduct truncating).FailsInTransit localSource.requestTimeout ∧
      fetch (webWorld [truncating]) localSource 1 =
        .error (.fatal 1 none "undecodable payload: error decoding response body") := by
  obtain ⟨exchange, valid, reached⟩ := localSource_reached
  obtain ⟨response, read, status, broken⟩ := response_truncating
  let conduct := Simulation.WebServer.conduct truncating
  have came : conduct.response? localSource.requestTimeout = some response :=
    (Simulation.WebServer.response?_conduct truncating _).trans read
  have carried := Simulation.WebServer.conduct_carried [truncating] localSource.requestTimeout reached
  have direct : conduct.IsDirect localSource.requestTimeout exchange :=
    Conduct.isDirect_of_status came (by rw [status]; decide)
  have cuts : conduct.CutsBody localSource.requestTimeout :=
    ⟨response, came, status ▸ ⟨by decide, by decide⟩, broken⟩
  exact ⟨exchange, valid, carried, direct, .cut cuts,
    (fetch_comes (webWorld [truncating]) valid carried direct).mpr (.cut cuts)⟩

end Startup

end Roster
