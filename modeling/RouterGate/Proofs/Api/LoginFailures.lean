import RouterGate.Proofs.Api.LoginPage
import RouterGate.Proofs.Router.Outages
/-!
Failed logins. What the one who asked is told goes by the kind of the fault, and for an outage by
whether an answer was waited for in vain; of what the router said there is nothing in it.
-/
namespace RouterGate

open Router.Dialogue
open Text (saysTimedOut)

namespace SessionStore

variable {store : SessionStore} {draws : List Draw} {fault : Fault}

theorem freshToken_error (failed : store.freshToken draws = .error fault) :
    ∃ cause, fault = .internal cause := by
  induction draws with
  | nil => exact ⟨_, (Except.error.inj failed).symm⟩
  | cons draw others induction =>
      cases draw with
      | failure reason => exact ⟨_, (Except.error.inj failed).symm⟩
      | token text =>
          rw [freshToken] at failed
          split at failed
          next => exact induction failed
          next => cases failed

theorem granting_error {moment : Nat} {confirmed : Except Fault Router.Login}
    (failed : (store.granting moment draws confirmed).1 = .error fault) :
    confirmed = .error fault ∨ ∃ cause, fault = .internal cause := by
  cases confirmed with
  | error fault' =>
      cases failed
      exact .inl rfl
  | ok login =>
      cases drawn : store.freshToken draws with
      | error fault' =>
          simp only [granting, create, drawn] at failed
          cases failed
          exact .inr (freshToken_error drawn)
      | ok token =>
          simp only [granting, create, drawn] at failed
          cases failed

end SessionStore

theorem VerdictCache.confirming_error_iff {cache : VerdictCache} {moment : Nat} {key : String}
    {confirmed : Except Fault Router.Login} {fault : Fault} :
    (cache.confirming moment key confirmed).1 = .error fault ↔ confirmed = .error fault := by
  cases confirmed with
  | ok login => simp [confirming]
  | error fault' => cases fault' <;> simp [confirming]

/-- The faults of a login are those of the router, but for what may go wrong inside. -/
theorem Gateway.run_login_delegated {gateway : Gateway} {endpoint : Router.Endpoint} {trust : Trust}
    (backend : gateway.backend = .delegated endpoint trust) (now : Nat)
    (username password : String) (draws : List Draw) (router : Router.Behavior)
    (past : List Router.Exchange) :
    let confirmed := (endpoint.login username password).run router past
    let asked := (gateway.login now username password draws).run router past
    asked.exchanges = confirmed.exchanges ∧ ∀ fault,
      (confirmed.value = .error fault → asked.value.1 = .error fault) ∧
        (asked.value.1 = .error fault →
          confirmed.value = .error fault ∨ ∃ cause, fault = .internal cause) := by
  intro confirmed asked
  cases trust with
  | sessions store =>
      obtain ⟨value, exchanges⟩ :=
        run_login_sessions backend now username password draws router past
      refine ⟨exchanges, ?_⟩
      intro fault
      simp only [asked, value]
      refine ⟨?_, SessionStore.granting_error⟩
      intro failed
      simp only [confirmed] at failed
      rw [failed]
      rfl
  | verdicts cache =>
      obtain ⟨value, exchanges⟩ :=
        run_login_verdicts backend now username password draws router past
      refine ⟨exchanges, ?_⟩
      intro fault
      simp only [asked, value]
      exact ⟨VerdictCache.confirming_error_iff.mpr,
        fun failed => .inl (VerdictCache.confirming_error_iff.mp failed)⟩

namespace Fault

variable {fault other : Fault}

theorem code_congr (kind : fault.kind = other.kind) (apart : fault.kind ≠ "Unreachable") :
    fault.code = other.code := by
  cases fault <;> cases other <;> first | rfl | simp [Fault.kind] at kind apart

theorem answer_congr (kind : fault.kind = other.kind) (code : fault.code = other.code)
    (clock : String) :
    fault.loginStatus = other.loginStatus ∧ fault.answer clock = other.answer clock := by
  have shown : fault.loginStatus = other.loginStatus ∧
      fault.publicMessage = other.publicMessage ∧ fault.isRetryable = other.isRetryable := by
    cases fault <;> cases other <;> first | exact ⟨rfl, rfl, rfl⟩ | simp [Fault.kind] at kind
  obtain ⟨status, message, retryable⟩ := shown
  refine ⟨status, ?_⟩
  rw [answer, answer, message, retryable, code]

theorem exists_of_kind (kind : fault.kind = "Unreachable") :
    ∃ cause, fault = .unreachable cause := by
  cases fault with
  | unreachable cause => exact ⟨cause, rfl⟩
  | _ => simp [Fault.kind] at kind

end Fault

/-- What the outage of a login is called, by what was exchanged until then. -/
theorem Gateway.code_of_login {gateway : Gateway} {endpoint : Router.Endpoint} {trust : Trust}
    (backend : gateway.backend = .delegated endpoint trust) (now : Nat)
    (username password : String) (draws : List Draw) (router : Router.Behavior)
    (past : List Router.Exchange) {fault : Fault} :
    let asked := (gateway.login now username password draws).run router past
    asked.value.1 = .error fault → fault.kind = "Unreachable" →
      asked.exchanges.any Router.Exchange.misleads = false →
      (asked.exchanges.any Router.Exchange.timesOut = true ∨
        saysTimedOut endpoint.baseUrl = false) →
      fault.code = if asked.exchanges.any Router.Exchange.timesOut then .connectionTimeout
        else .networkUnreachable := by
  intro asked failed kind candid quiet
  obtain ⟨exchanges, faults⟩ :=
    run_login_delegated backend now username password draws router past
  obtain ⟨cause, rfl⟩ := Fault.exists_of_kind kind
  have conversed := Router.conversed_of_yields
    (yields_run router past (endpoint.login username password))
  rcases (faults _).2 failed with confirmed | ⟨inside, impossible⟩
  · rw [confirmed, ← exchanges] at conversed
    exact conversed.code candid quiet
  · cases impossible

namespace Api

/-- The one answer to a rejected password. -/
def loginRejected (host : Host) : Response :=
  .json 401 (.record [("category", .text "authentication"), ("code", .natural 1101),
    ("error", .text "Invalid username or password"), ("ok", .bool false),
    ("retryable", .bool false), ("timestamp", .text host.clock)])

theorem loginFailed_invalidCredentials (host : Host) :
    loginFailed host .invalidCredentials = loginRejected host := rfl

theorem login_of_unread (host : Host) {gateway : Gateway} (now : Nat) (draws : List Draw)
    {body : Bytes} (small : body.length ≤ bodyLimit) (delegated : gateway.mode = .delegated)
    (unread : LoginRequest.read? body = none) :
    login host gateway now draws body =
      .note (unreadableLogin.event "login") (.done (refusal "invalid request", gateway)) := by
  rw [login, if_neg (Nat.not_lt.mpr small), if_neg fun apart => apart delegated]
  simp only [unread]

theorem loginFailed_congr (host : Host) {fault other : Fault} (kind : fault.kind = other.kind)
    (code : fault.code = other.code) : loginFailed host fault = loginFailed host other := by
  obtain ⟨status, shown⟩ := Fault.answer_congr kind code host.clock
  rw [loginFailed, loginFailed, status, shown]

end Api

namespace Service

/-- A login at the gateway of a service. -/
def attempt (service : Service) (router : Router.Behavior) (draws : List Draw)
    (given : Api.LoginRequest) : Router.Outcome (Except Fault LoginResult × Gateway) :=
  (service.gateway.login service.now given.username given.password draws).run router service.past

section Page

variable (host : Api.Host) (extra : List Api.ExtraPage) {request : Api.Request}
  (posts : request.PostsTo "/api/auth/login") (service : Service)

include posts

theorem answer_unread (delegated : service.gateway.mode = .delegated)
    (unread : Api.bodyLimit < request.body.length ∨ Api.LoginRequest.read? request.body = none) :
    ∃ response, ∀ (router : Router.Behavior) (draws : List Draw),
      (service.act router (.answer host extra request draws)).1.result = .answered response := by
  by_cases large : Api.bodyLimit < request.body.length
  · refine ⟨Api.finished request (Api.shared Api.tooLarge), ?_⟩
    intro router draws
    obtain ⟨result, -⟩ := act_login_page host extra posts draws router service
    rw [result, Api.login_of_large host service.gateway service.now draws large]
    rfl
  · refine ⟨Api.finished request (Api.shared (Api.refusal "invalid request")), ?_⟩
    intro router draws
    obtain ⟨result, -⟩ := act_login_page host extra posts draws router service
    rw [result, Api.login_of_unread host service.now draws (Nat.not_lt.mp large) delegated
      (unread.resolve_left large)]
    rfl

theorem answer_failed (small : request.body.length ≤ Api.bodyLimit)
    (delegated : service.gateway.mode = .delegated) {given : Api.LoginRequest}
    (read : Api.LoginRequest.read? request.body = some given) (router : Router.Behavior)
    (draws : List Draw) {fault : Fault}
    (failed : (service.attempt router draws given).value.1 = .error fault) :
    (service.act router (.answer host extra request draws)).1.result =
      .answered (Api.finished request (Api.shared (Api.loginFailed host fault))) := by
  obtain ⟨result, -⟩ := act_login_read host extra posts small read router service draws delegated
  rw [result, ← attempt, failed]
  rfl

end Page

section Refused

variable {service : Service} {endpoint : Router.Endpoint} {trust : Trust}
  (backend : service.gateway.backend = .delegated endpoint trust) (router : Router.Behavior)
  (draws : List Draw) (given : Api.LoginRequest) {first : Router.Request} {reason : String}
  (built : Router.Request.build .get endpoint.authUrl none none endpoint.client = .ok first)

include backend built

theorem attempt_refused (refused : (router service.past first).delivery = .refused reason) :
    (service.attempt router draws given).value.1 =
        .error (.unreachable (.lost endpoint.authUrl reason)) ∧
      (service.attempt router draws given).exchanges = [⟨first, router service.past first⟩] := by
  have run := Router.Endpoint.run_login_refused given.username given.password built refused
  obtain ⟨exchanges, faults⟩ := Gateway.run_login_delegated backend service.now given.username
    given.password draws router service.past
  rw [run] at exchanges faults
  exact ⟨(faults _).1 rfl, exchanges⟩

theorem attempt_refused_beyond {answer : Router.Answer} {location target : String}
    {second : Router.Request} (arrived : (router service.past first).delivery = .answered answer)
    (leads : Router.redirection? answer = some location)
    (resolved : Router.redirectTarget endpoint.client.hosts endpoint.authUrl location = .ok target)
    (builtBeyond : Router.Request.build .get target none none endpoint.client = .ok second)
    (refused : (router (service.past ++ [⟨first, router service.past first⟩]) second).delivery =
      .refused reason) :
    (service.attempt router draws given).value.1 = .error (.unreachable (.lost target reason)) ∧
      (service.attempt router draws given).exchanges = [⟨first, router service.past first⟩,
        ⟨second, router (service.past ++ [⟨first, router service.past first⟩]) second⟩] := by
  have run := Router.Endpoint.run_login_refused_beyond given.username given.password built arrived
    leads resolved builtBeyond refused
  obtain ⟨exchanges, faults⟩ := Gateway.run_login_delegated backend service.now given.username
    given.password draws router service.past
  rw [run] at exchanges faults
  exact ⟨(faults _).1 rfl, exchanges⟩

end Refused

end Service

/-- A failed login tells nothing of what the router said. Two attempts that fail by the same kind
of fault are answered alike, whatever the router did in each; those that fail for an outage only
if both waited in vain or neither did, and in the latter case only if the configured address does
not itself speak of a timeout. -/
theorem failed_logins_alike (host : Api.Host) (extra : List Api.ExtraPage) {request : Api.Request}
    (posts : request.PostsTo "/api/auth/login") (service : Service) {endpoint : Router.Endpoint}
    {trust : Trust} (backend : service.gateway.backend = .delegated endpoint trust)
    (router other : Router.Behavior) (draws others : List Draw) :
    let shown := (service.act router (.answer host extra request draws)).1.result
    let shown' := (service.act other (.answer host extra request others)).1.result
    (Api.bodyLimit < request.body.length ∨ Api.LoginRequest.read? request.body = none →
        shown = shown') ∧
      ∀ given, request.body.length ≤ Api.bodyLimit →
        Api.LoginRequest.read? request.body = some given →
        let first := service.attempt router draws given
        let second := service.attempt other others given
        (∀ fault fault', first.value.1 = .error fault → second.value.1 = .error fault' →
            fault.kind = fault'.kind →
            first.exchanges.any Router.Exchange.misleads = false →
            second.exchanges.any Router.Exchange.misleads = false →
            (fault.kind = "Unreachable" →
              first.exchanges.any Router.Exchange.timesOut =
                second.exchanges.any Router.Exchange.timesOut ∧
              (first.exchanges.any Router.Exchange.timesOut = true ∨
                saysTimedOut endpoint.baseUrl = false)) →
            shown = shown') ∧
          ∀ answer, Router.PostAnswer first.exchanges answer → answer.status ≠ 200 →
            shown = .answered (Api.finished request (Api.shared (Api.loginRejected host))) := by
  intro shown shown'
  have delegated : service.gateway.mode = .delegated := by
    simp only [Gateway.mode, backend]
  refine ⟨?_, ?_⟩
  · intro unread
    obtain ⟨response, answers⟩ := Service.answer_unread host extra posts service delegated unread
    exact (answers router draws).trans (answers other others).symm
  · intro given small read first second
    have answers := Service.answer_failed host extra posts service small delegated read
    refine ⟨?_, ?_⟩
    · intro fault fault' failed failed' kind candid candid' outage
      have code : fault.code = fault'.code := by
        by_cases unreachable : fault.kind = "Unreachable"
        · obtain ⟨same, quiet⟩ := outage unreachable
          have named := Gateway.code_of_login backend service.now given.username given.password
            draws router service.past failed unreachable candid quiet
          have named' := Gateway.code_of_login backend service.now given.username given.password
            others other service.past failed' (kind ▸ unreachable) candid' (same ▸ quiet)
          exact named.trans (same ▸ named'.symm)
        · exact Fault.code_congr kind unreachable
      rw [show shown = _ from answers router draws failed,
        show shown' = _ from answers other others failed', Api.loginFailed_congr host kind code]
    · intro answer posted rejected
      obtain ⟨exchanges, faults⟩ := Gateway.run_login_delegated backend service.now
        given.username given.password draws router service.past
      have conversed := Router.conversed_of_yields (yields_run router service.past
        (endpoint.login given.username given.password))
      have posted' := exchanges ▸ posted
      have confirmed := conversed.reading.rejected.mpr ⟨answer, posted', rejected⟩
      rw [← Api.loginFailed_invalidCredentials]
      exact answers router draws ((faults _).1 confirmed)

theorem failed_logins_alike_statuses :
    let request : Api.Request := ⟨"POST", "/api/auth/login", [],
      Bytes.ofString "\x7b\"username\":\"alice\",\"password\":\"secret\"\x7d"⟩
    let service : Service :=
      ⟨⟨.delegated ⟨"http://router", .tableless, 1000⟩ (.sessions (.start 90500 0 0)), false⟩,
        0, []⟩
    let router : Router.Behavior := fun _ _ => ⟨.answered ⟨418, [], .whole []⟩, 5⟩
    let other : Router.Behavior := fun _ _ =>
      ⟨.answered ⟨500, [.ofText "x-ndm-realm" "router"], .broken "closed"⟩, 90⟩
    request.PostsTo "/api/auth/login" ∧
      (service.act router (.answer ⟨"host", "cpu", ""⟩ [] request [])).1.result =
        (service.act other (.answer ⟨"host", "cpu", ""⟩ [] request [])).1.result := by
  intro request service router other
  have posts : request.PostsTo "/api/auth/login" := ⟨rfl, by decide⟩
  have read : Api.LoginRequest.read? request.body = some ⟨"alice", "secret"⟩ := by rfl
  obtain ⟨-, alike⟩ :=
    failed_logins_alike ⟨"host", "cpu", ""⟩ [] posts service rfl router other [] []
  obtain ⟨alike, -⟩ := alike ⟨"alice", "secret"⟩ (by decide) read
  refine ⟨posts, ?_⟩
  exact alike (.protocol (.unexpectedStatus 418 "http://router/auth"))
    (.protocol (.unexpectedStatus 500 "http://router/auth")) (by rfl) (by rfl) rfl
    (by decide) (by decide) (by decide)

/-- An address that speaks of a timeout itself: the answer then shows whether the router was
refused there, or at a place that it sent on to. -/
theorem failed_logins_differ :
    let request : Api.Request := ⟨"POST", "/api/auth/login", [],
      Bytes.ofString "\x7b\"username\":\"alice\",\"password\":\"secret\"\x7d"⟩
    let service : Service := ⟨⟨.delegated ⟨"http://192.168.1.1/timed out", .tableless, 5000⟩
      (.sessions (.start 3600000 600000 0)), false⟩, 0, []⟩
    let router := Router.unreachable "refused"
    let other : Router.Behavior := fun past _ =>
      if past.isEmpty then
        ⟨.answered ⟨302, [.ofText "location" "http://10.0.0.1/auth"], .whole []⟩, 5⟩
      else ⟨.refused "refused", 5⟩
    let first := service.attempt router [] ⟨"alice", "secret"⟩
    let second := service.attempt other [] ⟨"alice", "secret"⟩
    request.PostsTo "/api/auth/login" ∧
      Api.LoginRequest.read? request.body = some ⟨"alice", "secret"⟩ ∧
      (∃ cause cause', first.value.1 = .error (.unreachable cause) ∧
        second.value.1 = .error (.unreachable cause')) ∧
      (∀ exchange ∈ first.exchanges ++ second.exchanges,
        exchange.timesOut = false ∧ exchange.misleads = false) ∧
      (service.act router (.answer ⟨"host", "cpu", ""⟩ [] request [])).1.result ≠
        (service.act other (.answer ⟨"host", "cpu", ""⟩ [] request [])).1.result := by
  intro request service router other first second
  have posts : request.PostsTo "/api/auth/login" := ⟨rfl, by decide⟩
  have read : Api.LoginRequest.read? request.body = some ⟨"alice", "secret"⟩ := by rfl
  have backend : service.gateway.backend = .delegated
    ⟨"http://192.168.1.1/timed out", .tableless, 5000⟩ (.sessions (.start 3600000 600000 0)) := rfl
  obtain ⟨home, built⟩ : ∃ home, Router.Request.build .get "http://192.168.1.1/timed out/auth" none
      none ⟨.tableless, 5000⟩ = .ok home := ⟨_, rfl⟩
  obtain ⟨beyond, builtBeyond⟩ : ∃ beyond, Router.Request.build .get "http://10.0.0.1/auth" none
      none ⟨.tableless, 5000⟩ = .ok beyond := ⟨_, rfl⟩
  have leads : Router.redirection?
      ⟨302, [.ofText "location" "http://10.0.0.1/auth"], .whole []⟩ =
        some "http://10.0.0.1/auth" := by decide
  have resolved : Router.redirectTarget .tableless "http://192.168.1.1/timed out/auth"
      "http://10.0.0.1/auth" = .ok "http://10.0.0.1/auth" := by rfl
  obtain ⟨failed, spoken⟩ := Service.attempt_refused backend router [] ⟨"alice", "secret"⟩ built rfl
  obtain ⟨failed', spoken'⟩ := Service.attempt_refused_beyond backend other [] ⟨"alice", "secret"⟩
    built rfl leads resolved builtBeyond rfl
  have quiet : saysTimedOut "refused" = false := (Text.IsSpaceless.of_contains rfl).saysTimedOut_eq
  refine ⟨posts, read, ⟨_, _, failed, failed'⟩, ?_, ?_⟩
  · rw [spoken, spoken']
    simp [Router.Exchange.timesOut, Router.Exchange.misleads, router, other, service,
      Router.unreachable, quiet]
  · have named : saysTimedOut "http://192.168.1.1/timed out" = true :=
      Text.saysTimedOut_iff.mpr ⟨"http://192.168.1.1/".toList, [], by decide⟩
    have late := Router.Endpoint.code_of_refused "refused"
      (show saysTimedOut (Router.Endpoint.baseUrl ⟨_, .tableless, 5000⟩) = true from named)
    have elsewhere : saysTimedOut "http://10.0.0.1/auth" = false :=
      (Text.IsSpaceless.of_contains rfl).saysTimedOut_eq
    have lost := Router.code_of_quiet elsewhere quiet
    have body (response : Api.Response) :
        (Api.finished request (Api.shared response)).body = response.body := rfl
    have answered := Service.answer_failed ⟨"host", "cpu", ""⟩ [] posts service (by decide) rfl read
    rw [answered router [] failed, answered other [] failed']
    intro same
    have bodies := congrArg Api.Response.body (Result.answered.inj same)
    rw [body, body] at bodies
    simp only [Api.loginFailed, Api.Response.json, Fault.answer, late, lost] at bodies
    exact absurd bodies (by decide)

end RouterGate
