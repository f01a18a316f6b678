import RouterGate.Proofs.Api.Pages
import RouterGate.Proofs.Service.Moves
import RouterGate.Proofs.Session.Store
/-!
What one step makes of the sessions: it gives one out, ends one, or leaves them as they are but
for what is expired.
-/
namespace RouterGate

open Router.Dialogue

/-- The first cookie of a name among those that a request presents. -/
def Http.Cookie.PresentsFirst (headers : Http.Headers) (name value : String) : Prop :=
  ∃ before after, presented headers = before ++ ⟨name, value⟩ :: after ∧
    ∀ cookie ∈ before, cookie.name ≠ name

theorem Http.Cookie.presentsFirst_iff {headers : Http.Headers} {name value : String} :
    PresentsFirst headers name value ↔ valueOf? name (presented headers) = some value := by
  unfold PresentsFirst valueOf?
  rw [Option.map_eq_some_iff]
  simp only [List.find?_eq_some_iff_append, Bool.not_eq_true', beq_eq_false_iff_ne, beq_iff_eq]
  constructor
  · intro presents
    obtain ⟨before, after, listed, others⟩ := presents
    exact ⟨⟨name, value⟩, ⟨rfl, before, after, listed, others⟩, rfl⟩
  · intro found
    obtain ⟨⟨_, _⟩, ⟨rfl, before, after, listed, others⟩, rfl⟩ := found
    exact ⟨before, after, listed, others⟩

/-- A step in which a user is given a session, by the gateway itself or by its login page. -/
inductive Step.Issues (step : Step) (ttl : Nat) (user token : String) : Prop
  | login (came : step.result = .loggedIn (.ok ⟨user, some token⟩))
  | page {host : Api.Host} {extra : List Api.ExtraPage} {request : Api.Request}
      {draws : List Draw} {password : String} {response : Api.Response}
      (asked : step.action = .answer host extra request draws)
      (posts : request.PostsTo "/api/auth/login")
      (read : Api.LoginRequest.read? request.body = some ⟨user, password⟩)
      (answered : step.result = .answered response) (accepted : response.status = 200)
      (sets : .ofText "set-cookie" (Http.Cookie.settingSession token ttl) ∈ response.headers)

/-- A step in which the session of a token is ended, by the gateway or by its logout page. -/
inductive Step.Ends (step : Step) (token : String) : Prop
  | logout (asked : step.action = .logout (some token))
  | page {host : Api.Host} {extra : List Api.ExtraPage} {request : Api.Request}
      {draws : List Draw} (asked : step.action = .answer host extra request draws)
      (posts : request.PostsTo "/api/auth/logout")
      (presents : Http.Cookie.PresentsFirst request.headers "tt_session" token)

/-- What a step can make of the sessions. -/
inductive SessionEffect (store : SessionStore) (step : Step) : SessionStore → Prop
  | kept {next : SessionStore} (trims : store.Trims step.ended next)
      (noIssue : ∀ user token, ¬step.Issues store.ttl user token)
      (noEnd : ∀ token, ¬step.Ends token) :
      SessionEffect store step next
  | issued {user token : String} {trimmed : SessionStore}
      (issues : step.Issues store.ttl user token)
      (only : ∀ user' token', step.Issues store.ttl user' token' → user' = user ∧ token' = token)
      (noEnd : ∀ token, ¬step.Ends token) (confirmed : Router.Confirmed step.exchanges)
      (trims : store.Trims step.ended trimmed) (fresh : trimmed.find? token = none) :
      SessionEffect store step (trimmed.add step.ended user token)
  | ended {token : String} (ends : step.Ends token)
      (only : ∀ token', step.Ends token' → token' = token)
      (noIssue : ∀ user token, ¬step.Issues store.ttl user token) :
      SessionEffect store step (store.destroy token)

theorem SessionEffect.stored_or_issues {store next : SessionStore} {step : Step}
    (effect : SessionEffect store step next) {session : Session}
    (stored : session ∈ next.sessions) :
    session ∈ store.sessions ∨ step.Issues store.ttl session.owner session.token := by
  cases effect with
  | kept trims noIssue noEnd => exact .inl (trims.sublist.subset stored)
  | issued issues only noEnd confirmed trims fresh =>
      rcases List.mem_cons.mp stored with rfl | earlier
      · exact .inr issues
      · exact .inl (trims.sublist.subset earlier)
  | ended ends only noIssue => exact .inl (SessionStore.mem_destroy_iff.mp stored).1

theorem SessionEffect.confirmed_of_issues {store next : SessionStore} {step : Step}
    (effect : SessionEffect store step next) {user token : String}
    (issues : step.Issues store.ttl user token) : Router.Confirmed step.exchanges := by
  cases effect with
  | kept trims noIssue noEnd => exact absurd issues (noIssue user token)
  | issued issues' only noEnd confirmed trims fresh => exact confirmed
  | ended ends only noIssue => exact absurd issues (noIssue user token)

theorem quiet_effect {store next : SessionStore} {step : Step}
    (trims : store.Trims step.ended next) (noLogin : ∀ result, step.result ≠ .loggedIn result)
    (noLogout : ∀ token, step.action ≠ .logout (some token))
    (noPage : ∀ host extra request draws, step.action ≠ .answer host extra request draws) :
    SessionEffect store step next := by
  apply SessionEffect.kept trims
  · intro user token issues
    cases issues with
    | login came => exact noLogin _ came
    | page asked posts read answered accepted sets => exact noPage _ _ _ _ asked
  · intro token ends
    cases ends with
    | logout asked => exact noLogout _ asked
    | page asked posts presents => exact noPage _ _ _ _ asked

namespace Gateway

variable {gateway : Gateway} {endpoint : Router.Endpoint} {store : SessionStore}

theorem authorize_sessions (backend : gateway.backend = .delegated endpoint (.sessions store))
    (now : Nat) (headers : Http.Headers) :
    gateway.authorize now headers = .done (store.decide now headers, gateway) := by
  simp only [authorize, backend]

theorem login_sessions (backend : gateway.backend = .delegated endpoint (.sessions store))
    {now : Nat} {username password : String} {draws : List Draw}
    {exchanges : List Router.Exchange} {result : Except Fault LoginResult} {kept : Gateway}
    (held : (gateway.login now username password draws).Yields exchanges (result, kept)) :
    ∃ next, kept.backend = .delegated endpoint (.sessions next) ∧
      store.LoggedIn now username exchanges result next := by
  simp only [login, backend] at held
  obtain ⟨⟨reached, next⟩, asked, same⟩ := yields_map_iff.mp held
  cases same
  exact ⟨next, rfl, SessionStore.loggedIn_of_yields asked⟩

theorem logout_sessions (backend : gateway.backend = .delegated endpoint (.sessions store))
    (token : String) :
    (gateway.logout (some token)).backend =
      .delegated endpoint (.sessions (store.destroy token)) := by
  simp only [logout, backend]

theorem sessionTtl?_sessions
    (backend : gateway.backend = .delegated endpoint (.sessions store)) :
    gateway.sessionTtl? = some store.ttl := by
  simp only [sessionTtl?, backend]

end Gateway

theorem SessionStore.LoggedIn.ttl_eq {store kept : SessionStore} {now : Nat} {username : String}
    {exchanges : List Router.Exchange} {result : Except Fault LoginResult}
    (loggedIn : store.LoggedIn now username exchanges result kept) : kept.ttl = store.ttl := by
  cases loggedIn with
  | failed trims => exact trims.ttl
  | issued confirmed trims fresh => exact trims.ttl

theorem login_effect {store next : SessionStore} {step : Step} {username password : String}
    {draws : List Draw} {result : Except Fault LoginResult}
    (acted : step.action = .login username password draws)
    (came : step.result = .loggedIn result)
    (ended : step.ended = step.started + duration step.exchanges)
    (loggedIn : store.LoggedIn step.started username step.exchanges result next) :
    SessionEffect store step next := by
  have noEnd : ∀ token, ¬step.Ends token := by
    intro token ends
    cases ends with
    | logout asked => cases acted.symm.trans asked
    | page asked posts presents => cases acted.symm.trans asked
  have issues_iff {user token : String} :
      step.Issues store.ttl user token ↔ result = .ok ⟨user, some token⟩ := by
    constructor
    · intro issues
      cases issues with
      | login came' => exact Result.loggedIn.inj (came.symm.trans came')
      | page asked posts read answered accepted sets => cases acted.symm.trans asked
    · intro same
      subst same
      exact .login came
  cases loggedIn with
  | failed trims =>
      rw [← ended] at trims
      refine .kept trims ?_ noEnd
      intro user token issues
      cases issues_iff.mp issues
  | issued confirmed trims fresh =>
      rw [← ended] at trims ⊢
      refine .issued (issues_iff.mpr rfl) ?_ noEnd confirmed trims fresh
      intro user token issues
      cases issues_iff.mp issues
      exact ⟨rfl, rfl⟩

theorem page_login_effect {store next : SessionStore} {step : Step} {host : Api.Host}
    {extra : List Api.ExtraPage} {request : Api.Request} {draws : List Draw}
    {credentials : Api.LoginRequest} {kept : Gateway} {endpoint : Router.Endpoint}
    {result : Except Fault LoginResult}
    (acted : step.action = .answer host extra request draws)
    (posts : request.PostsTo Api.OpenPage.login.path)
    (read : Api.LoginRequest.read? request.body = some credentials)
    (backend : kept.backend = .delegated endpoint (.sessions next))
    (came : step.result = .answered
      (Api.finished request (Api.shared (Api.loginAnswer host kept result))))
    (ended : step.ended = step.started + duration step.exchanges)
    (loggedIn : store.LoggedIn step.started credentials.username step.exchanges result next) :
    SessionEffect store step next := by
  have noEnd : ∀ token, ¬step.Ends token := by
    intro token ends
    cases ends with
    | logout asked => cases acted.symm.trans asked
    | page asked posts' presents =>
        cases acted.symm.trans asked
        exact absurd (posts.2.symm.trans posts'.2) (by decide)
  have ttl : kept.sessionTtl? = some store.ttl := by
    rw [Gateway.sessionTtl?_sessions backend, loggedIn.ttl_eq]
  cases loggedIn with
  | failed trims =>
      rw [← ended] at trims
      refine .kept trims ?_ noEnd
      intro user token issues
      cases issues with
      | login came' => cases came.symm.trans came'
      | page asked posts read answered accepted sets =>
          cases came.symm.trans answered
          rw [Api.finished_status] at accepted
          exact Api.loginStatus_ne_ok _ accepted
  | issued confirmed trims fresh =>
      rw [← ended] at trims ⊢
      simp only [Api.loginAnswer, ttl] at came
      refine .issued (.page acted posts read came ?_ (Api.loggedIn_sets_iff.mpr rfl)) ?_ noEnd
        confirmed trims fresh
      · rw [Api.finished_status]
        rfl
      intro user token issues'
      cases issues' with
      | login came' => cases came.symm.trans came'
      | page asked posts' read' answered accepted sets =>
          cases acted.symm.trans asked
          cases came.symm.trans answered
          cases read.symm.trans read'
          exact ⟨rfl, Http.Cookie.settingSession_inj.mp (Api.loggedIn_sets_iff.mp sets)⟩

theorem logout_effect {gateway : Gateway} {endpoint : Router.Endpoint} {store : SessionStore}
    {step : Step} {token : Option String}
    (backend : gateway.backend = .delegated endpoint (.sessions store))
    (acted : step.action = .logout token) (came : step.result = .done) :
    ∃ next, (gateway.logout token).backend = .delegated endpoint (.sessions next) ∧
      SessionEffect store step next := by
  cases token with
  | none =>
      refine ⟨store, ?_, quiet_effect (.refl _ store) ?_ ?_ ?_⟩
      · simp only [Gateway.logout, backend]
      all_goals simp [acted, came]
  | some token =>
      refine ⟨store.destroy token, Gateway.logout_sessions backend token,
        .ended (.logout acted) ?_ ?_⟩
      · intro other ends
        cases ends with
        | logout asked =>
            cases acted.symm.trans asked
            rfl
        | page asked posts presents => cases acted.symm.trans asked
      · intro user token issues
        cases issues with
        | login came' => cases came.symm.trans came'
        | page asked posts read answered accepted sets => cases acted.symm.trans asked

theorem answer_effect {gateway kept : Gateway} {endpoint : Router.Endpoint}
    {store : SessionStore} {step : Step} {host : Api.Host} {extra : List Api.ExtraPage}
    {request : Api.Request} {draws : List Draw} {response : Api.Response}
    (backend : gateway.backend = .delegated endpoint (.sessions store))
    (acted : step.action = .answer host extra request draws)
    (came : step.result = .answered response)
    (ended : step.ended = step.started + duration step.exchanges)
    (answered : Api.Answered host extra gateway step.started draws request step.exchanges
      response kept) :
    ∃ next, kept.backend = .delegated endpoint (.sessions next) ∧
      SessionEffect store step next := by
  have noLogin : ∀ user token, step.Issues store.ttl user token →
      request.PostsTo Api.OpenPage.login.path ∧ response.status = 200 := by
    intro user token issues
    cases issues with
    | login came' => cases came.symm.trans came'
    | page asked posts read answered accepted sets =>
        cases acted.symm.trans asked
        cases came.symm.trans answered
        exact ⟨posts, accepted⟩
  have onlyLogout : ∀ token, step.Ends token → request.PostsTo Api.OpenPage.logout.path ∧
      Api.tokenOf? request.headers = some token := by
    intro token ends
    cases ends with
    | logout asked => cases acted.symm.trans asked
    | page asked posts presents =>
        cases acted.symm.trans asked
        exact ⟨posts, Http.Cookie.presentsFirst_iff.mp presents⟩
  -- The cases of the answer fix the exchanges of the step, which must not be a projection.
  generalize exchanged : step.exchanges = exchanges at answered
  cases answered with
  | still quiet noLogout =>
      refine ⟨store, backend, .kept (.refl _ store) ?_ ?_⟩
      · intro user token issues
        obtain ⟨posts, accepted⟩ := noLogin user token issues
        exact quiet posts accepted
      · intro token ends
        exact noLogout (onlyLogout token ends).1
  | login posts small read held =>
      obtain ⟨next, keptBackend, loggedIn⟩ := Gateway.login_sessions backend held
      rw [← exchanged] at loggedIn
      exact ⟨next, keptBackend,
        page_login_effect acted posts read keptBackend came ended loggedIn⟩
  | logout posts =>
      have noIssue : ∀ user token, ¬step.Issues store.ttl user token := by
        intro user token issues
        exact absurd (posts.2.symm.trans (noLogin user token issues).1.2) (by decide)
      cases presented : Api.tokenOf? request.headers with
      | none =>
          refine ⟨store, ?_, .kept (.refl _ store) noIssue ?_⟩
          · simp only [Gateway.logout, backend]
          · intro token ends
            cases presented.symm.trans (onlyLogout token ends).2
      | some token =>
          have ends : step.Ends token :=
            .page acted posts (Http.Cookie.presentsFirst_iff.mpr presented)
          refine ⟨store.destroy token, Gateway.logout_sessions backend token,
            .ended ends ?_ noIssue⟩
          intro token' ends'
          cases presented.symm.trans (onlyLogout token' ends').2
          rfl
  | guarded found asks held answers =>
      rw [Gateway.authorize_sessions backend] at held
      simp only [yields_done_iff, Prod.mk.injEq] at held
      obtain ⟨rfl, rfl, rfl⟩ := held
      refine ⟨store, backend, .kept (.refl _ store) ?_ ?_⟩
      · intro user token issues
        rw [(noLogin user token issues).1.2] at found
        cases found
      · intro token ends
        rw [(onlyLogout token ends).1.2] at found
        cases found

/-- Every action has one of these effects on the sessions. -/
theorem sessionEffect_of_yields {service : Service} {kept : Gateway} {endpoint : Router.Endpoint}
    {store : SessionStore} {step : Step}
    (backend : service.gateway.backend = .delegated endpoint (.sessions store))
    (started : step.started = service.now)
    (ended : step.ended = service.now + duration step.exchanges + Service.waitOf step.action)
    (held : (service.dialogue step.action).Yields step.exchanges (step.result, kept)) :
    ∃ next, kept.backend = .delegated endpoint (.sessions next) ∧
      SessionEffect store step next := by
  rw [← started] at ended
  cases acted : step.action with
  | authorize headers =>
      rw [acted] at held
      obtain ⟨decision, decides, came⟩ := Service.authorize_yields_iff.mp held
      rw [Gateway.authorize_sessions backend] at decides
      obtain ⟨-, same⟩ := yields_done_iff.mp decides
      cases same
      refine ⟨store, backend, quiet_effect (.refl _ store) ?_ ?_ ?_⟩ <;> simp [acted, came]
  | check headers =>
      rw [acted] at held
      obtain ⟨-, came, rfl⟩ := Service.check_yields_iff.mp held
      refine ⟨store, backend, quiet_effect (.refl _ store) ?_ ?_ ?_⟩ <;> simp [acted, came]
  | login username password draws =>
      rw [acted] at held ended
      obtain ⟨result, asked, came⟩ := Service.login_yields_iff.mp held
      obtain ⟨next, keptBackend, loggedIn⟩ := Gateway.login_sessions backend asked
      rw [← started] at loggedIn
      exact ⟨next, keptBackend, login_effect acted came ended loggedIn⟩
  | logout token =>
      rw [acted] at held
      obtain ⟨-, came, rfl⟩ := Service.logout_yields_iff.mp held
      exact logout_effect backend acted came
  | answer host extra request draws =>
      rw [acted] at held ended
      obtain ⟨response, asked, came⟩ := Service.answer_yields_iff.mp held
      have answered := Api.answered_of_yields asked
      rw [← started] at answered
      exact answer_effect backend acted came ended answered
  | wait milliseconds =>
      rw [acted] at held ended
      obtain ⟨silent, came, rfl⟩ := Service.wait_yields_iff.mp held
      have trims := store.trims_passTime service.now (service.now + milliseconds)
      have reached : service.now + milliseconds = step.ended := by
        rw [ended, silent, started]
        rfl
      rw [reached] at trims
      refine ⟨_, ?_, quiet_effect trims ?_ ?_ ?_⟩
      · simp only [Gateway.passTime, backend, reached]
      all_goals simp [acted, came]
  | shutdown =>
      rw [acted] at held
      obtain ⟨-, came, rfl⟩ := Service.shutdown_yields_iff.mp held
      have trims : store.Trims step.ended store.shutdown :=
        ⟨rfl, List.Sublist.refl _, fun _ stored _ => stored⟩
      refine ⟨store.shutdown, ?_, quiet_effect trims ?_ ?_ ?_⟩
      · simp only [Gateway.shutdown, backend]
      all_goals simp [acted, came]

theorem Service.act_sessionEffect (router : Router.Behavior) {service : Service} (action : Action)
    {endpoint : Router.Endpoint} {store : SessionStore}
    (backend : service.gateway.backend = .delegated endpoint (.sessions store)) :
    ∃ next, (service.act router action).2.gateway.backend =
        .delegated endpoint (.sessions next) ∧
      SessionEffect store (service.act router action).1 next :=
  sessionEffect_of_yields backend rfl (act_ended router service action)
    (act_yields router service action)

end RouterGate
