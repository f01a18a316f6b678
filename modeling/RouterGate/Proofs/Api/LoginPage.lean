import RouterGate.Proofs.Api.Guarding
import RouterGate.Proofs.Http.GivenBack
import RouterGate.Proofs.Session.Standing
import RouterGate.Proofs.Verdict.Judging
/-!
The login page. What it answers and what the gateway keeps go together: a session cookie is set
exactly if a session was stored for it, and a login that fails leaves no trace but the verdict of
a router that rejected it.
-/
namespace RouterGate

open Router.Dialogue

theorem Draw.isTokenChar_of_mem {source : List (Except String Bytes)} {token : String}
    (drawn : Draw.token token ∈ source.map Draw.ofSource) :
    ∀ c ∈ token.toList, Http.Cookie.isTokenChar c = true := by
  obtain ⟨given, -, same⟩ := List.mem_map.mp drawn
  cases given with
  | error reason => cases same
  | ok bytes =>
      cases same
      intro c member
      rw [String.toList_ofList] at member
      exact Http.Cookie.isTokenChar_of_mem_ofBytes member

namespace Api

def Response.setCookies (response : Response) : List Bytes :=
  Http.Headers.values "set-cookie" response.headers

theorem setCookies_withHeader (response : Response) {name : String}
    (other : Http.Header.isNamed "set-cookie" (.ofText name "") = false) (value : String) :
    (response.withHeader name value).setCookies = response.setCookies := by
  rw [Response.setCookies, Response.withHeader, Http.Headers.values_append,
    Http.Headers.values_cons_of_other other]
  exact List.append_nil _

theorem setCookies_shared (response : Response) :
    (shared response).setCookies = response.setCookies := by
  rw [shared, setCookies_withHeader _ (by decide), setCookies_withHeader _ (by decide),
    setCookies_withHeader _ (by decide)]

theorem setCookies_finished (request : Request) (response : Response) :
    (finished request response).setCookies = response.setCookies := by
  have measured : response.measured.setCookies = response.setCookies :=
    setCookies_withHeader response (by decide) _
  unfold finished
  split
  next => exact measured
  next => exact measured

theorem setCookies_json (status : Nat) (document : Json) :
    (Response.json status document).setCookies = [] :=
  Http.Headers.values_cons_of_other (by decide) _ []

theorem setCookies_plain (status : Nat) (text : String) :
    (Response.plain status text).setCookies = [] :=
  Http.Headers.values_cons_of_other (by decide) _ []

theorem setCookies_loggedIn (user token : String) (ttl : Nat) :
    (loggedIn ⟨user, some token⟩ (some ttl)).setCookies =
      [Bytes.ofString (Http.Cookie.settingSession token ttl)] := by
  have noCookie : Http.Headers.values "set-cookie" done.headers = [] := setCookies_json _ _
  show Http.Headers.values "set-cookie" (done.headers ++ [_]) = _
  rw [Http.Headers.values_append, noCookie, Http.Headers.values_cons_ofText]
  rfl

section Runs

variable (host : Host) (extra : List ExtraPage) (gateway : Gateway) (now : Nat)
  (draws : List Draw) {request : Request} (router : Router.Behavior)
  (past : List Router.Exchange)

theorem run_respond_login (posts : request.PostsTo OpenPage.login.path) :
    let shown := (login host gateway now draws request.body).run router past
    let answered := (respond host extra gateway now draws request).run router past
    answered.value = (finished request (shared shown.value.1), shown.value.2) ∧
      answered.exchanges = shown.exchanges := by
  have logsIn : Call.LogsIn ⟨host, extra, gateway, now, draws, request, router, past⟩ :=
    Call.logsIn _ posts
  exact ⟨logsIn.value, logsIn.exchanges⟩

variable {body : Bytes}

theorem login_of_large (large : bodyLimit < body.length) :
    login host gateway now draws body = .done (tooLarge, gateway) := by
  rw [login, if_pos large]

/-- Without a router to ask, or without a login that can be read, the page only refuses. -/
theorem run_login_unfit (small : body.length ≤ bodyLimit)
    (unfit : gateway.mode ≠ .delegated ∨ LoginRequest.read? body = none) :
    ∃ reason events, (login host gateway now draws body).run router past =
      ⟨(refusal reason, gateway), [], events⟩ := by
  rw [login, if_neg (Nat.not_lt.mpr small)]
  by_cases delegated : gateway.mode = .delegated
  · have unread := unfit.resolve_left fun apart => apart delegated
    rw [if_neg fun apart => apart delegated]
    simp only [unread]
    exact ⟨_, _, rfl⟩
  · rw [if_pos delegated]
    exact ⟨_, _, rfl⟩

theorem run_login (small : body.length ≤ bodyLimit) (delegated : gateway.mode = .delegated)
    {given : LoginRequest} (read : LoginRequest.read? body = some given) :
    let asked := (gateway.login now given.username given.password draws).run router past
    let shown := (login host gateway now draws body).run router past
    shown.value = (loginAnswer host asked.value.2 asked.value.1, asked.value.2) ∧
      shown.exchanges = asked.exchanges := by
  rw [login, if_neg (Nat.not_lt.mpr small), if_neg fun apart => apart delegated]
  simp only [read, run_seq]
  generalize (gateway.login now given.username given.password draws).run router past = asked
  obtain ⟨⟨result, kept⟩, exchanges, events⟩ := asked
  cases result with
  | ok result => exact ⟨rfl, List.append_nil _⟩
  | error fault => exact ⟨rfl, List.append_nil _⟩

end Runs

end Api

namespace Service

section Page

variable (host : Api.Host) (extra : List Api.ExtraPage) {request : Api.Request}
  (posts : request.PostsTo "/api/auth/login") (draws : List Draw) (router : Router.Behavior)
  (service : Service)

include posts

theorem act_login_page :
    let shown := (Api.login host service.gateway service.now draws request.body).run router
      service.past
    let asked := service.act router (.answer host extra request draws)
    asked.1.result = .answered (Api.finished request (Api.shared shown.value.1)) ∧
      asked.1.exchanges = shown.exchanges ∧
      asked.1.ended = service.now + duration shown.exchanges ∧
      asked.2 = ⟨shown.value.2, service.now + duration shown.exchanges,
        service.past ++ shown.exchanges⟩ := by
  obtain ⟨value, exchanges⟩ := Api.run_respond_login host extra service.gateway service.now draws
    router service.past posts
  simp [act, dialogue, run_seq, run_pure, Router.Outcome.elapsed, duration, waitOf, value,
    exchanges]

end Page

/-- A request is refused: the router is not asked, and nothing changes. -/
def Refuses (service : Service) (asked : Step × Service) (response : Api.Response)
    (status : Nat) : Prop :=
  response.status = status ∧ response.setCookies = [] ∧ asked.1.exchanges = [] ∧
    asked.2 = service

/-- Until a session expires its owner is let in with a pair that is sent back as a cookie, whatever
other cookies stand beside it, unless its token is logged out. -/
def Admits (service : Service) (router : Router.Behavior) (pair : String) (session : Session) :
    Prop :=
  ∀ moves,
    let steps := (service.play router moves).1
    let later := (service.play router moves).2
    later.now < session.expiresAt → (∀ step ∈ steps, ¬step.Ends session.token) →
      ∀ (before after : Http.Headers) (firsts lasts : List String),
        (∀ cookie ∈ Http.Cookie.presented before, cookie.name ≠ "tt_session") →
        (∀ part ∈ firsts ++ lasts, Http.Cookie.IsOther part) →
        let cookies := "; ".intercalate (firsts ++ pair :: lasts)
        (later.act router (.authorize (before ++ .ofText "cookie" cookies :: after))).1.result =
          .decided (.allowed (.user session.owner))

/-- A login that may give a session. What the reaper sweeps away meanwhile is expired; besides, a
session is added exactly if the answer sets a cookie, and the cookie is good for the session. -/
structure GivesSession (service : Service) (router : Router.Behavior) (asked : Step × Service)
    (response : Api.Response) (user : String) (ttl : Nat) (swept : List Session) : Prop where
  sublist : swept.Sublist service.gateway.sessions
  live : ∀ session ∈ service.gateway.sessions, asked.1.ended < session.expiresAt →
    session ∈ swept
  added_iff : response.status = 200 ∧ response.setCookies ≠ [] ↔
    ∃ session, asked.2.gateway.sessions = session :: swept
  added : ∀ session, asked.2.gateway.sessions = session :: swept →
    session.owner = user ∧ session.expiresAt = asked.1.ended + ttl ∧
      (∀ other ∈ swept, other.token ≠ session.token) ∧
      ∃ seconds, seconds * 1000 ≤ ttl ∧
        let value := "tt_session=" ++ session.token ++
          "; Path=/; HttpOnly; SameSite=Lax; Max-Age=" ++ toString seconds
        response.setCookies = [Bytes.ofString value] ∧
          asked.2.Admits router (Http.Cookie.leadingPair value) session
  failed : response.status ≠ 200 → response.setCookies = [] ∧ asked.2.gateway.sessions = swept

/-- A login that may give a verdict. No cookie is set; what the router says is recorded, unless it
is a fault other than a rejection. -/
structure GivesVerdict (service : Service) (asked : Step × Service) (response : Api.Response)
    (outcome : Router.Outcome (Except Fault Router.Login)) (recorded : Bool → Gateway) :
    Prop where
  noCookie : response.setCookies = []
  exchanges : asked.1.exchanges = outcome.exchanges
  confirmed : ∀ login, outcome.value = .ok login →
    response.status = 200 ∧ asked.2.gateway = recorded true
  rejected : outcome.value = .error .invalidCredentials →
    response.status = 401 ∧ asked.2.gateway = recorded false
  failed : ∀ fault, outcome.value = .error fault → fault ≠ .invalidCredentials →
    response.status ≠ 200 ∧ asked.2.gateway = service.gateway

theorem refuses_of_run (host : Api.Host) (extra : List Api.ExtraPage) {request : Api.Request}
    (posts : request.PostsTo "/api/auth/login") (draws : List Draw) (router : Router.Behavior)
    (service : Service) {reason : Api.Response} {events : List Log.Event}
    (refused : (Api.login host service.gateway service.now draws request.body).run router
      service.past = ⟨(reason, service.gateway), [], events⟩)
    (noCookie : reason.setCookies = []) :
    let asked := service.act router (.answer host extra request draws)
    ∃ response, asked.1.result = .answered response ∧
      service.Refuses asked response reason.status := by
  obtain ⟨result, exchanges, -, next⟩ := act_login_page host extra posts draws router service
  rw [refused] at result exchanges next
  refine ⟨_, result, ?_, ?_, exchanges, ?_⟩
  · rw [Api.finished_status, Api.shared_status]
  · rw [Api.setCookies_finished, Api.setCookies_shared, noCookie]
  · rw [next, duration_nil, Nat.add_zero, List.append_nil]

theorem Holds.admits {service : Service} {session : Session} (holds : service.Holds session)
    (router : Router.Behavior)
    (plain : ∀ c ∈ session.token.toList, Http.Cookie.isTokenChar c = true) :
    service.Admits router ("tt_session=" ++ session.token) session := by
  intro moves steps later live unended before after firsts lasts others beside cookies
  have held : later.Holds session := holds.play router moves live unended
  exact held.authorize live router (Http.Cookie.presented_session plain others beside)

namespace GivesSession

variable {service : Service} {router : Router.Behavior} {asked : Step × Service}
  {response : Api.Response} {user : String} {store swept : SessionStore}
  (table : service.gateway.sessions = store.sessions) (trims : store.Trims asked.1.ended swept)

include table trims

theorem of_failed (status : response.status ≠ 200) (cookies : response.setCookies = [])
    (kept : asked.2.gateway.sessions = swept.sessions) :
    service.GivesSession router asked response user store.ttl swept.sessions where
  sublist := table ▸ trims.sublist
  live := table ▸ trims.live
  added_iff := by
    constructor
    · intro good
      exact absurd good.1 status
    · intro grown
      obtain ⟨session, same⟩ := grown
      exact absurd (kept.symm.trans same).symm (List.cons_ne_self session swept.sessions)
  added := by
    intro session same
    exact absurd (kept.symm.trans same).symm (List.cons_ne_self session swept.sessions)
  failed := fun _ => ⟨cookies, kept⟩

theorem of_added {token : String} (status : response.status = 200)
    (cookies : response.setCookies =
      [Bytes.ofString (Http.Cookie.settingSession token store.ttl)])
    {endpoint : Router.Endpoint} (kept : asked.2.gateway.backend =
      .delegated endpoint (.sessions (swept.add asked.1.ended user token)))
    (fresh : swept.find? token = none)
    (plain : ∀ c ∈ token.toList, Http.Cookie.isTokenChar c = true) :
    service.GivesSession router asked response user store.ttl swept.sessions where
  sublist := table ▸ trims.sublist
  live := table ▸ trims.live
  added_iff := by
    have grown : asked.2.gateway.sessions =
        ⟨token, user, asked.1.ended + swept.ttl⟩ :: swept.sessions := by
      simp only [Gateway.sessions, kept, SessionStore.add_sessions]
    refine ⟨fun _ => ⟨_, grown⟩, fun _ => ⟨status, ?_⟩⟩
    rw [cookies]
    exact List.cons_ne_nil _ _
  added := by
    intro session same
    obtain rfl : ⟨token, user, asked.1.ended + swept.ttl⟩ = session := by
      simp only [Gateway.sessions, kept, SessionStore.add_sessions] at same
      exact List.head_eq_of_cons_eq same
    refine ⟨rfl, ?_, SessionStore.find?_eq_none_iff.mp fresh, store.ttl / 1000,
      Nat.div_mul_le_self _ _, cookies, ?_⟩
    · rw [trims.ttl]
    · have holds : asked.2.Holds ⟨token, user, asked.1.ended + swept.ttl⟩ :=
        ⟨endpoint, _, kept, .of_add fresh⟩
      show asked.2.Admits router
        (Http.Cookie.leadingPair (Http.Cookie.settingSession token store.ttl)) _
      rw [Http.Cookie.leadingPair_settingSession plain]
      exact holds.admits router plain
  failed := fun other => absurd status other

end GivesSession

section Sessions

variable (host : Api.Host) (extra : List Api.ExtraPage) {request : Api.Request}
  (posts : request.PostsTo "/api/auth/login") (small : request.body.length ≤ Api.bodyLimit)
  {given : Api.LoginRequest} (read : Api.LoginRequest.read? request.body = some given)
  (router : Router.Behavior) (service : Service) {endpoint : Router.Endpoint}

include posts small read

theorem act_login_read (draws : List Draw) (delegated : service.gateway.mode = .delegated) :
    let reached := (service.gateway.login service.now given.username given.password draws).run
      router service.past
    let asked := service.act router (.answer host extra request draws)
    asked.1.result = .answered (Api.finished request
        (Api.shared (Api.loginAnswer host reached.value.2 reached.value.1))) ∧
      asked.1.exchanges = reached.exchanges ∧
      asked.1.ended = service.now + duration reached.exchanges ∧
      asked.2.gateway = reached.value.2 := by
  intro reached asked
  obtain ⟨result, exchanges, ended, next⟩ :=
    act_login_page host extra posts draws router service
  obtain ⟨value, spoken⟩ := Api.run_login host service.gateway service.now draws router
    service.past small delegated read
  rw [value] at result next
  rw [spoken] at exchanges ended
  exact ⟨result, exchanges, ended, congrArg Service.gateway next⟩

theorem act_login_given (draws : List Draw) (delegated : service.gateway.mode = .delegated) :
    let reached := (service.gateway.login service.now given.username given.password draws).run
      router service.past
    let asked := service.act router (.answer host extra request draws)
    ∃ response, asked.1.result = .answered response ∧
      response.status = (Api.loginAnswer host reached.value.2 reached.value.1).status ∧
      response.setCookies = (Api.loginAnswer host reached.value.2 reached.value.1).setCookies ∧
      asked.1.exchanges = reached.exchanges ∧
      asked.1.ended = service.now + duration reached.exchanges ∧
      asked.2.gateway = reached.value.2 := by
  intro reached asked
  obtain ⟨result, rest⟩ := act_login_read host extra posts small read router service draws delegated
  refine ⟨_, result, ?_, ?_, rest⟩
  · rw [Api.finished_status, Api.shared_status]
  · rw [Api.setCookies_finished, Api.setCookies_shared]

theorem givesSession {store : SessionStore} (source : List (Except String Bytes))
    (backend : service.gateway.backend = .delegated endpoint (.sessions store)) :
    let asked := service.act router (.answer host extra request (source.map Draw.ofSource))
    ∃ response, asked.1.result = .answered response ∧
      service.GivesSession router asked response given.username store.ttl
        (service.gateway.passTime service.now asked.1.ended).sessions := by
  intro asked
  have delegated : service.gateway.mode = .delegated := by
    simp only [Gateway.mode, backend]
  obtain ⟨response, result, status, cookies, -, ended, kept⟩ :=
    act_login_given host extra posts small read router service (source.map Draw.ofSource) delegated
  obtain ⟨value, exchanges⟩ := Gateway.run_login_sessions backend service.now given.username
    given.password (source.map Draw.ofSource) router service.past
  rw [exchanges] at ended
  rw [value, ← ended] at status cookies kept
  have swept : (service.gateway.passTime service.now asked.1.ended).sessions =
      (store.passTime service.now asked.1.ended).sessions := by
    simp only [Gateway.passTime, Gateway.sessions, backend]
  have table : service.gateway.sessions = store.sessions := by
    simp only [Gateway.sessions, backend]
  have trims := store.trims_passTime service.now asked.1.ended
  refine ⟨response, result, ?_⟩
  rw [swept]
  rcases (store.passTime service.now asked.1.ended).granting_login endpoint asked.1.ended
      given.username given.password (source.map Draw.ofSource) router service.past with
    ⟨fault, granted⟩ | ⟨token, granted, fresh, drawn⟩
  · rw [granted] at status cookies kept
    have refused : response.status ≠ 200 := by
      rw [status]
      exact Api.loginStatus_ne_ok fault
    exact .of_failed table trims refused (cookies.trans (Api.setCookies_json _ _))
      (congrArg Gateway.sessions kept)
  · rw [granted] at status cookies kept
    have sets := Api.setCookies_loggedIn given.username token
      (store.passTime service.now asked.1.ended).ttl
    rw [trims.ttl] at sets
    refine .of_added table trims status ?_ (congrArg Gateway.backend kept) fresh ?_
    · rw [cookies, ← sets, ← trims.ttl]
      rfl
    · exact Draw.isTokenChar_of_mem drawn

theorem givesVerdict {cache : VerdictCache} (draws : List Draw)
    (backend : service.gateway.backend = .delegated endpoint (.verdicts cache)) :
    let asked := service.act router (.answer host extra request draws)
    ∃ response, asked.1.result = .answered response ∧
      service.GivesVerdict asked response
        ((endpoint.login given.username given.password).run router service.past)
        fun isValid => { service.gateway with
          backend := .delegated endpoint (.verdicts (cache.put asked.1.ended
            (Verdict.credentialKey given.username given.password) isValid)) } := by
  intro asked
  have delegated : service.gateway.mode = .delegated := by
    simp only [Gateway.mode, backend]
  obtain ⟨response, result, status, cookies, spoken, ended, kept⟩ :=
    act_login_given host extra posts small read router service draws delegated
  obtain ⟨value, exchanges⟩ := Gateway.run_login_verdicts backend service.now given.username
    given.password draws router service.past
  rw [exchanges] at spoken ended
  rw [value, ← ended] at status cookies kept
  refine ⟨response, result, ?_⟩
  generalize (endpoint.login given.username given.password).run router service.past = outcome
    at status cookies kept spoken ⊢
  cases came : outcome.value with
  | ok login =>
      rw [came] at status cookies kept
      exact ⟨cookies.trans (Api.setCookies_json _ _), spoken, fun _ _ => ⟨status, kept⟩,
        by simp [came], by simp [came]⟩
  | error fault =>
      rw [came] at status cookies kept
      by_cases rejected : fault = .invalidCredentials
      · subst rejected
        exact ⟨cookies.trans (Api.setCookies_json _ _), spoken, by simp [came],
          fun _ => ⟨status, kept⟩, by simp [came]⟩
      · rw [cache.confirming_fault _ _ rejected] at status cookies kept
        refine ⟨cookies.trans (Api.setCookies_json _ _), spoken, by simp [came],
          by simp [came, rejected], ?_⟩
        intro fault' _ _
        rw [status, kept]
        exact ⟨Api.loginStatus_ne_ok fault, Gateway.with_backend backend⟩

end Sessions

end Service

/-- A login by its page. Where there is no router to ask, and where no login can be read, nothing
happens; bodies beyond the limit are not read at all. With sessions, the answer sets a cookie
exactly if one session is added, and nothing else that counts is lost; with verdicts, no answer
sets a cookie, and what is recorded is the word of the router. -/
theorem login_page (host : Api.Host) (extra : List Api.ExtraPage) {request : Api.Request}
    (posts : request.PostsTo "/api/auth/login") (source : List (Except String Bytes))
    (router : Router.Behavior) (service : Service) :
    let asked := service.act router (.answer host extra request (source.map Draw.ofSource))
    ∃ response, asked.1.result = .answered response ∧
      (Api.bodyLimit < request.body.length → service.Refuses asked response 413) ∧
      (request.body.length ≤ Api.bodyLimit →
        service.gateway.mode ≠ .delegated ∨ Api.LoginRequest.read? request.body = none →
        service.Refuses asked response 400) ∧
      ∀ given, request.body.length ≤ Api.bodyLimit →
        Api.LoginRequest.read? request.body = some given →
        (∀ endpoint store, service.gateway.backend = .delegated endpoint (.sessions store) →
          service.GivesSession router asked response given.username store.ttl
            (service.gateway.passTime service.now asked.1.ended).sessions) ∧
        ∀ endpoint cache, service.gateway.backend = .delegated endpoint (.verdicts cache) →
          service.GivesVerdict asked response
            ((endpoint.login given.username given.password).run router service.past)
            fun isValid => { service.gateway with
              backend := .delegated endpoint (.verdicts (cache.put asked.1.ended
                (Verdict.credentialKey given.username given.password) isValid)) } := by
  intro asked
  obtain ⟨result, -⟩ := Service.act_login_page host extra posts (source.map Draw.ofSource) router
    service
  refine ⟨_, result, ?_, ?_, ?_⟩
  · intro large
    have refused := congrArg (run router service.past) (Api.login_of_large host service.gateway
      service.now (source.map Draw.ofSource) large)
    obtain ⟨response, result', refuses⟩ := Service.refuses_of_run host extra posts
      (source.map Draw.ofSource) router service refused (Api.setCookies_plain _ _)
    cases result.symm.trans result'
    exact refuses
  · intro small unfit
    obtain ⟨reason, events, refused⟩ := Api.run_login_unfit host service.gateway service.now
      (source.map Draw.ofSource) router service.past small unfit
    obtain ⟨response, result', refuses⟩ := Service.refuses_of_run host extra posts
      (source.map Draw.ofSource) router service refused (Api.setCookies_json _ _)
    cases result.symm.trans result'
    exact refuses
  · intro given small read
    refine ⟨?_, ?_⟩
    · intro endpoint store backend
      obtain ⟨response, result', gives⟩ :=
        Service.givesSession host extra posts small read router service source backend
      cases result.symm.trans result'
      exact gives
    · intro endpoint cache backend
      obtain ⟨response, result', gives⟩ := Service.givesVerdict host extra posts small read router
        service (source.map Draw.ofSource) backend
      cases result.symm.trans result'
      exact gives

theorem login_page_granted :
    let request : Api.Request := ⟨"POST", "/api/auth/login", [],
      Bytes.ofString "\x7b\"username\":\"alice\",\"password\":\"secret\"\x7d"⟩
    let router : Router.Behavior := fun _ _ => ⟨.answered ⟨200, [], .whole []⟩, 5⟩
    let store : SessionStore := .start 90500 0 0
    let service : Service :=
      ⟨⟨.delegated ⟨"http://router", .tableless, 1000⟩ (.sessions store), false⟩, 0, []⟩
    let asked := service.act router
      (.answer ⟨"host", "cpu", ""⟩ [] request ([.ok [1, 0xAF]].map Draw.ofSource))
    request.PostsTo "/api/auth/login" ∧ ∃ response, asked.1.result = .answered response ∧
      response.status = 200 ∧ ∃ seconds, seconds * 1000 ≤ 90500 ∧
        response.setCookies = [Bytes.ofString
          ("tt_session=01af; Path=/; HttpOnly; SameSite=Lax; Max-Age=" ++ toString seconds)] := by
  intro request router store service asked
  have posts : request.PostsTo "/api/auth/login" := ⟨rfl, by decide⟩
  have read : Api.LoginRequest.read? request.body = some ⟨"alice", "secret"⟩ := by rfl
  have grown : asked.2.gateway.sessions = [⟨"01af", "alice", 90505⟩] := by decide
  obtain ⟨response, result, -, -, gives⟩ :=
    login_page ⟨"host", "cpu", ""⟩ [] posts [.ok [1, 0xAF]] router service
  obtain ⟨sessions, -⟩ := gives ⟨"alice", "secret"⟩ (by decide) read
  have given := sessions ⟨"http://router", .tableless, 1000⟩ store rfl
  obtain ⟨-, -, -, seconds, whole, cookies, -⟩ := given.added _ grown
  exact ⟨posts, response, result, (given.added_iff.mpr ⟨_, grown⟩).1, seconds, whole, cookies⟩

/-- A body of one byte more than is read is not refused as others are that hold no login. -/
theorem login_page_too_large :
    let request : Api.Request :=
      ⟨"POST", "/api/auth/login", [], Bytes.ofString "\x7b\x7d" ++ List.replicate 2097151 0x20⟩
    let service : Service := ⟨.fixed "admin" "pw", 0, []⟩
    let asked := service.act (Router.unreachable "") (.answer ⟨"host", "cpu", ""⟩ [] request [])
    request.PostsTo "/api/auth/login" ∧ service.gateway.mode ≠ .delegated ∧
      (∃ response, asked.1.result = .answered response ∧ response.status = 413) ∧
      ¬∃ response, asked.1.result = .answered response ∧ response.status = 400 := by
  intro request service asked
  have posts : request.PostsTo "/api/auth/login" := ⟨rfl, by decide⟩
  have large : Api.bodyLimit < request.body.length := by
    rw [List.length_append, List.length_replicate]
    decide
  have refused := congrArg (run (Router.unreachable "") service.past)
    (Api.login_of_large ⟨"host", "cpu", ""⟩ service.gateway service.now [] large)
  obtain ⟨response, result, refuses⟩ := Service.refuses_of_run ⟨"host", "cpu", ""⟩ [] posts []
    (Router.unreachable "") service refused (Api.setCookies_plain _ _)
  refine ⟨posts, by decide, ⟨response, result, refuses.1⟩, ?_⟩
  intro claimed
  obtain ⟨other, result', status⟩ := claimed
  cases result.symm.trans result'
  exact absurd (refuses.1.symm.trans status) (by decide)

end RouterGate
