import RouterGate.Proofs.Api.Pages
/-!
Pages behind the gateway. What a guarded page shows is shown to whom the gateway allows, and for
that identity; the login pages ask nobody.
-/
namespace RouterGate.Api

open Router.Dialogue

/-- The same page with another handler. -/
def ExtraPage.answering (other : ExtraPage → Handler) (page : ExtraPage) : ExtraPage :=
  ⟨page.path, other page⟩

def reservedPaths : List String :=
  ["/api/system", "/api/auth/login", "/api/auth/logout", "/api/auth/check"]

def Request.Reads (request : Request) : Prop :=
  request.method = "GET" ∨ request.method = "HEAD"

namespace Page

variable {extra : List ExtraPage}

theorem find?_extra (distinct : (extra.map (·.path)).Nodup) {page : ExtraPage}
    (added : page ∈ extra) : extra.find? (·.path == page.path) = some page := by
  induction extra with
  | nil => cases added
  | cons first rest induction =>
      obtain ⟨others, distinct⟩ := List.nodup_cons.mp distinct
      rcases List.mem_cons.mp added with rfl | later
      · rw [List.find?_cons, beq_self_eq_true]
      · have miss : (first.path == page.path) = false := by
          rw [beq_eq_false_iff_ne]
          intro same
          exact others (List.mem_map.mpr ⟨page, later, same.symm⟩)
        rw [List.find?_cons, miss]
        exact induction distinct later

/-- Each guarded page is found at its path. -/
theorem find?_guarded (distinct : (extra.map (·.path)).Nodup)
    (apart : ∀ added ∈ extra, added.path ∉ reservedPaths) {page : GuardedPage}
    (isPage : page = .system ∨ ∃ added ∈ extra, page = .extra added) :
    find? extra page.path = some (.guarded page) := by
  rcases isPage with rfl | ⟨added, member, rfl⟩
  · rfl
  · have others := apart added member
    simp only [reservedPaths, List.mem_cons, List.not_mem_nil, or_false, not_or] at others
    obtain ⟨system, login, logout, check⟩ := others
    have found : (fun page : ExtraPage => (Page.guarded (.extra page)).path == added.path) =
        fun page => page.path == added.path := rfl
    simp only [find?, all, GuardedPage.path, List.cons_append, List.nil_append,
      List.find?_cons, path, OpenPage.path, beq_eq_false_iff_ne.mpr (Ne.symm login),
      beq_eq_false_iff_ne.mpr (Ne.symm logout), beq_eq_false_iff_ne.mpr (Ne.symm check),
      beq_eq_false_iff_ne.mpr (Ne.symm system), List.find?_map, Function.comp_def,
      find?_extra distinct member, Option.map_some]

theorem find?_open (extra : List ExtraPage) (page : OpenPage) :
    find? extra page.path = some (.openTo page) := by
  cases page <;> rfl

end Page

/-- A request as it comes to the API: which pages there are, the gateway and the moment, what the
source of random tokens gives next, and the router with what was said to it before. -/
structure Call where
  host : Host
  extra : List ExtraPage
  gateway : Gateway
  now : Nat
  draws : List Draw
  request : Request
  router : Router.Behavior
  past : List Router.Exchange

namespace Call

def answered (call : Call) : Router.Outcome (Response × Gateway) :=
  (respond call.host call.extra call.gateway call.now call.draws call.request).run call.router
    call.past

/-- What the gateway decides about the request. -/
def judged (call : Call) : Router.Outcome (Decision × Gateway) :=
  (call.gateway.authorize call.now call.request.headers).run call.router call.past

/-- The run of a guarded page for an identity. -/
def told (call : Call) (page : GuardedPage) (identity : Identity) : Router.Outcome Response :=
  (showGuarded call.host call.judged.value.2 call.request identity page).run call.router
    (call.past ++ call.judged.exchanges)

/-- The run of the login page. -/
def loggedIn (call : Call) : Router.Outcome (Response × Gateway) :=
  (login call.host call.gateway call.now call.draws call.request.body).run call.router call.past

/-- The same request where the pages have other handlers. -/
def answering (call : Call) (other : ExtraPage → Handler) : Call :=
  { call with extra := call.extra.map (·.answering other) }

def withHeaders (call : Call) (headers : Http.Headers) : Call :=
  { call with request := { call.request with headers := headers } }

/-- A page ran for an identity: what it came to is shown, and what it told the operator stands
between the notes on the decision and that on the request. -/
structure Shows (call : Call) (page : GuardedPage) (identity : Identity) : Prop where
  response : call.answered.value.1 =
    finished call.request (shared (call.told page identity).value)
  events : call.answered.events = call.judged.events ++ (call.told page identity).events ++
    [requestEvent call.request (call.told page identity).value call.judged.elapsed]

/-- A guarded page does not run for a method that it does not have. -/
structure IsMisused (call : Call) : Prop where
  status : call.answered.value.1.status = 405
  body : call.answered.value.1.body = []
  events : call.answered.events =
    call.judged.events ++ [requestEvent call.request wrongMethod call.judged.elapsed]

/-- Without leave there is a challenge, and no page runs. -/
structure IsChallenged (call : Call) : Prop where
  status : call.answered.value.1.status = 401
  challenge : .ofText "www-authenticate" "Basic realm=\"TrustTunnel Manager\"" ∈
    call.answered.value.1.headers
  body : call.answered.value.1.body = if call.request.method = "HEAD" then []
    else Json.write (.record [("error", .text "unauthorized")])
  events : call.answered.events = call.judged.events ++
    [deniedEvent call.request, requestEvent call.request unauthorized call.judged.elapsed]

/-- The gateway alone decides whether a page runs, and for whom; what handlers would do for
anything else plays no part. -/
structure IsGuarded (call : Call) (page : GuardedPage) : Prop where
  exchanges : call.answered.exchanges = call.judged.exchanges
  kept : call.answered.value.2 = call.judged.value.2
  shown : ∀ identity, call.judged.value.1 = .allowed identity → call.request.Reads →
    call.Shows page identity
  misused : ∀ identity, call.judged.value.1 = .allowed identity → ¬call.request.Reads →
    call.IsMisused
  challenged : call.judged.value.1 = .denied → call.IsChallenged
  unseen : ∀ other : ExtraPage → Handler,
    (∀ identity, call.judged.value.1 = .allowed identity → call.request.Reads →
      ∀ added, page = .extra added →
        (other added).answer call.request identity =
          added.handler.answer call.request identity) →
      (call.answering other).answered = call.answered

/-- What the page on the system tells the identity that asks for it. -/
def TellsSystem (call : Call) (identity : Identity) : Prop :=
  call.answered.value.1.body = Json.write (.record [
    ("architecture", .text call.host.architecture),
    ("auth_mode", .text call.judged.value.2.mode.shown),
    ("hostname", .text call.host.name),
    ("manager_version", .text Program.version),
    ("router_target_degraded", .bool call.judged.value.2.isDegraded),
    ("user", match identity with
      | .user name => .text name
      | _ => .null)])

/-- The login page takes no leave: it runs, whatever the headers present. -/
structure LogsIn (call : Call) : Prop where
  value : call.answered.value =
    (finished call.request (shared call.loggedIn.value.1), call.loggedIn.value.2)
  exchanges : call.answered.exchanges = call.loggedIn.exchanges
  leaveless : ∀ headers, (call.withHeaders headers).answered = call.answered

/-- An open page has answered with something, and the router was not asked. -/
structure Answers (call : Call) (response : Response) (kept : Gateway) : Prop where
  value : call.answered.value = (finished call.request (shared response), kept)
  silent : call.answered.exchanges = []

/-- An open page does not run for a method that it does not have. -/
structure IsTurnedAway (call : Call) : Prop where
  status : call.answered.value.1.status = 405
  kept : call.answered.value.2 = call.gateway
  silent : call.answered.exchanges = []

end Call

theorem Request.reads_iff {request : Request} :
    Methods.reading.accepts request.method = true ↔ request.Reads := by
  simp [Methods.accepts, Request.Reads]

theorem finished_body (request : Request) (response : Response) :
    (finished request response).body = if request.method = "HEAD" then [] else response.body := by
  unfold finished
  split <;> rfl

theorem withAllowed_body (extra : List ExtraPage) (request : Request) (response : Response) :
    (withAllowed extra request response).body = response.body := by
  unfold withAllowed
  split
  next => rfl
  next => split <;> rfl

theorem mem_withAllowed {extra : List ExtraPage} {request : Request} {response : Response}
    {header : Http.Header} (member : header ∈ response.headers) :
    header ∈ (withAllowed extra request response).headers := by
  unfold withAllowed
  split
  next => exact member
  next =>
    split
    next => exact member
    next => exact List.mem_append_left _ member

theorem mem_finished_shared {request : Request} {response : Response} {header : Http.Header}
    (member : header ∈ response.headers) :
    header ∈ (finished request (shared response)).headers := by
  rw [finished_headers]
  simp only [shared, Response.withHeader]
  exact List.mem_append_left _ (List.mem_append_left _ (List.mem_append_left _
    (List.mem_append_left _ member)))

section Runs

variable (host : Host) (extra : List ExtraPage) (gateway : Gateway) (now : Nat)
  (draws : List Draw) (request : Request) (router : Router.Behavior)
  (past : List Router.Exchange)

theorem run_respond (asks : request.method ≠ "OPTIONS") :
    let shown := (content host extra gateway now draws request).run router past
    (respond host extra gateway now draws request).run router past =
      ⟨(finished request (shared (withAllowed extra request shown.value.1)), shown.value.2),
        shown.exchanges,
        shown.events ++ [requestEvent request shown.value.1 shown.elapsed]⟩ := by
  intro shown
  rw [respond, if_neg asks, run_seq, run_timed]
  simp only
  rw [run_say, run_pure, List.append_nil]

theorem run_guard (page : GuardedPage) :
    let judged := (gateway.authorize now request.headers).run router past
    let told := (guardedAnswer host judged.value.2 request page judged.value.1).run router
      (past ++ judged.exchanges)
    (guard host gateway now request page).run router past =
      ⟨(told.value, judged.value.2), judged.exchanges, judged.events ++ told.events⟩ := by
  intro judged told
  have silent : told.exchanges = [] :=
    (asksNothing_guardedAnswer host judged.value.2 request page judged.value.1).exchanges_eq _ _
  have exchanges : judged.exchanges ++ told.exchanges = judged.exchanges := by
    rw [silent, List.append_nil]
  simp only [guard, run_seq, run_pure, List.append_nil]
  exact congrArg (fun spoken => (⟨(told.value, judged.value.2), spoken,
    judged.events ++ told.events⟩ : Router.Outcome (Response × Gateway))) exchanges

end Runs

namespace Call

variable (call : Call) (asks : call.request.method ≠ "OPTIONS")

include asks

/-- A guarded page asks the gateway, and answers by what it decides. -/
theorem answered_guarded {page : GuardedPage}
    (found : Page.find? call.extra call.request.path = some (.guarded page)) :
    let told := (guardedAnswer call.host call.judged.value.2 call.request page
      call.judged.value.1).run call.router (call.past ++ call.judged.exchanges)
    call.answered =
      ⟨(finished call.request (shared (withAllowed call.extra call.request told.value)),
          call.judged.value.2),
        call.judged.exchanges,
        call.judged.events ++ told.events ++
          [requestEvent call.request told.value call.judged.elapsed]⟩ := by
  intro told
  have shows : content call.host call.extra call.gateway call.now call.draws call.request =
      guard call.host call.gateway call.now call.request page := by
    simp only [content, found]
  rw [answered, run_respond _ _ _ _ _ _ _ _ asks, shows, run_guard]
  rfl

/-- An open page asks nobody. -/
theorem answered_open {page : OpenPage}
    (found : Page.find? call.extra call.request.path = some (.openTo page))
    (accepts : (Page.openTo page).methods.accepts call.request.method = true) :
    let shown := (showOpen call.host call.gateway call.now call.draws call.request page).run
      call.router call.past
    call.answered =
      ⟨(finished call.request (shared shown.value.1), shown.value.2), shown.exchanges,
        shown.events ++ [requestEvent call.request shown.value.1 shown.elapsed]⟩ := by
  intro shown
  have shows : content call.host call.extra call.gateway call.now call.draws call.request =
      showOpen call.host call.gateway call.now call.draws call.request page := by
    simp only [content, found, accepts, if_true]
  rw [answered, run_respond _ _ _ _ _ _ _ _ asks, shows]
  simp only [withAllowed_of_accepts found accepts, shown]

theorem isTurnedAway {page : OpenPage}
    (found : Page.find? call.extra call.request.path = some (.openTo page))
    (refuses : (Page.openTo page).methods.accepts call.request.method = false) :
    call.IsTurnedAway := by
  have shows : content call.host call.extra call.gateway call.now call.draws call.request =
      .done (wrongMethod, call.gateway) := by
    simp only [content, found, refuses, Bool.false_eq_true, if_false]
  have outcome : call.answered = _ := run_respond _ _ _ _ _ _ _ _ asks
  rw [shows, run_done] at outcome
  constructor
  · rw [outcome, finished_status, shared_status, withAllowed_status]
    rfl
  · rw [outcome]
  · rw [outcome]

end Call

theorem Request.PostsTo.ne_options {request : Request} {path : String}
    (posts : request.PostsTo path) : request.method ≠ "OPTIONS" := by
  rw [posts.1]
  decide

namespace Call

variable (call : Call)

theorem find?_open {page : OpenPage} (onPath : call.request.path = page.path) :
    Page.find? call.extra call.request.path = some (.openTo page) := by
  rw [onPath, Page.find?_open]

theorem logsIn (posts : call.request.PostsTo OpenPage.login.path) : call.LogsIn := by
  have found := call.find?_open posts.2
  have accepts : (Page.openTo .login).methods.accepts call.request.method = true :=
    beq_iff_eq.mpr posts.1
  have outcome : call.answered = _ := call.answered_open posts.ne_options found accepts
  refine ⟨by rw [outcome]; rfl, by rw [outcome]; rfl, ?_⟩
  -- The path, the method and the body are those of the request, whatever its headers.
  intro headers
  exact ((call.withHeaders headers).answered_open posts.ne_options found accepts).trans
    outcome.symm

theorem answers_logout (posts : call.request.PostsTo OpenPage.logout.path) :
    call.Answers loggedOut (call.gateway.logout (tokenOf? call.request.headers)) := by
  have outcome : call.answered = _ := call.answered_open posts.ne_options
    (call.find?_open posts.2) (beq_iff_eq.mpr posts.1)
  have held := yields_run call.router call.past (logout call.gateway call.request.headers)
  simp only [logout, yields_tell_iff, yields_pure_iff] at held
  obtain ⟨silent, shown⟩ := held
  refine ⟨(congrArg Router.Outcome.value outcome).trans ?_,
    (congrArg Router.Outcome.exchanges outcome).trans silent⟩
  exact congrArg
    (fun pair : Response × Gateway => (finished call.request (shared pair.1), pair.2)) shown

theorem answers_check (onPath : call.request.path = OpenPage.check.path)
    (reads : call.request.Reads) :
    call.Answers (.json 200 (call.gateway.check call.now call.request.headers).json)
      call.gateway := by
  have asks : call.request.method ≠ "OPTIONS" := by
    rcases reads with gets | heads
    · rw [gets]
      decide
    · rw [heads]
      decide
  have outcome : call.answered = _ :=
    call.answered_open asks (call.find?_open onPath) (Request.reads_iff.mpr reads)
  exact ⟨congrArg Router.Outcome.value outcome, congrArg Router.Outcome.exchanges outcome⟩

end Call

namespace Call

variable {call : Call} (asks : call.request.method ≠ "OPTIONS") {page : GuardedPage}
  (found : Page.find? call.extra call.request.path = some (.guarded page))

include asks found

theorem shows_of_allowed {identity : Identity} (allowed : call.judged.value.1 = .allowed identity)
    (reads : call.request.Reads) : call.Shows page identity := by
  have accepts := Request.reads_iff.mpr reads
  have outcome := call.answered_guarded asks found
  simp only [allowed, guardedAnswer, accepts, if_true] at outcome
  constructor
  · rw [outcome, withAllowed_of_accepts found accepts]
    rfl
  · rw [outcome]
    rfl

theorem isMisused_of_allowed {identity : Identity}
    (allowed : call.judged.value.1 = .allowed identity) (misuses : ¬call.request.Reads) :
    call.IsMisused := by
  have refuses := mt Request.reads_iff.mp misuses
  have outcome := call.answered_guarded asks found
  simp only [allowed, guardedAnswer, refuses, Bool.false_eq_true, if_false, run_done] at outcome
  constructor
  · rw [outcome, finished_status, shared_status, withAllowed_status]
    rfl
  · rw [outcome, finished_body]
    split
    next => rfl
    next => exact withAllowed_body call.extra call.request wrongMethod
  · rw [outcome, List.append_nil]

theorem isChallenged_of_denied (denied : call.judged.value.1 = .denied) : call.IsChallenged := by
  have outcome := call.answered_guarded asks found
  simp only [denied, guardedAnswer, run_note, run_done] at outcome
  constructor
  · rw [outcome, finished_status, shared_status, withAllowed_status]
    rfl
  · rw [outcome]
    apply mem_finished_shared
    apply mem_withAllowed
    exact List.mem_append_right _ List.mem_cons_self
  · have body : (shared (withAllowed call.extra call.request unauthorized)).body =
        unauthorized.body := withAllowed_body call.extra call.request unauthorized
    rw [outcome, finished_body, body]
    rfl
  · rw [outcome, List.append_assoc]
    rfl

end Call

section Replacing

variable {extra : List ExtraPage} (other : ExtraPage → Handler)

def GuardedPage.answering : GuardedPage → GuardedPage
  | .system => .system
  | .extra page => .extra (page.answering other)

def Page.answering : Page → Page
  | .openTo page => .openTo page
  | .guarded page => .guarded (page.answering other)

theorem Page.all_answering :
    Page.all (extra.map (·.answering other)) = (Page.all extra).map (·.answering other) := by
  simp [Page.all, Page.answering, GuardedPage.answering]

theorem Page.find?_answering (path : String) :
    Page.find? (extra.map (·.answering other)) path =
      (Page.find? extra path).map (·.answering other) := by
  have samePath : ∀ page : Page, (page.answering other).path = page.path := by
    intro page
    rcases page with page | (_ | page)
    all_goals rfl
  simp only [Page.find?, Page.all_answering, List.find?_map, Function.comp_def, samePath]

theorem withAllowed_answering (request : Request) (response : Response) :
    withAllowed (extra.map (·.answering other)) request response =
      withAllowed extra request response := by
  unfold withAllowed
  rw [Page.find?_answering]
  rcases Page.find? extra request.path with _ | (page | page)
  all_goals rfl

/-- Another handler shows only through what it does for this request and the identity that the
gateway allows. -/
theorem Call.answered_answering {call : Call} (asks : call.request.method ≠ "OPTIONS")
    {page : GuardedPage}
    (found : Page.find? call.extra call.request.path = some (.guarded page))
    (same : ∀ identity, call.judged.value.1 = .allowed identity → call.request.Reads →
      ∀ added, page = .extra added →
        (other added).answer call.request identity =
          added.handler.answer call.request identity) :
    (call.answering other).answered = call.answered := by
  have found' : Page.find? (call.answering other).extra (call.answering other).request.path =
      some (.guarded (page.answering other)) :=
    (Page.find?_answering other call.request.path).trans (by rw [found]; rfl)
  have sameAnswer :
      guardedAnswer call.host call.judged.value.2 call.request (page.answering other)
          call.judged.value.1 =
        guardedAnswer call.host call.judged.value.2 call.request page call.judged.value.1 := by
    cases decided : call.judged.value.1 with
    | denied => rfl
    | allowed identity =>
        simp only [guardedAnswer]
        by_cases accepts : Methods.reading.accepts call.request.method = true
        · rw [if_pos accepts, if_pos accepts]
          cases page with
          | system => rfl
          | extra added => exact same identity decided (Request.reads_iff.mp accepts) added rfl
        · rw [if_neg accepts, if_neg accepts]
  have outcome : (call.answering other).answered = _ :=
    (call.answering other).answered_guarded asks found'
  simp only [answering, judged] at outcome sameAnswer
  rw [call.answered_guarded asks found]
  simp only [answering, judged, outcome, sameAnswer, withAllowed_answering]

end Replacing

/-- Guarded pages are shown only to whom the gateway allows, and for that identity: without leave
the answer is a challenge, and no page runs. Logging in and out, and asking whether one is logged
in, take no leave. -/
theorem guarded_pages (call : Call) (distinct : (call.extra.map (·.path)).Nodup)
    (apart : ∀ added ∈ call.extra, added.path ∉ reservedPaths)
    (asks : call.request.method ≠ "OPTIONS") :
    (∀ page : GuardedPage, page = .system ∨ (∃ added ∈ call.extra, page = .extra added) →
      call.request.path = page.path → call.IsGuarded page) ∧
    (call.request.path = "/api/system" → call.request.method = "GET" →
      ∀ identity, call.judged.value.1 = .allowed identity → call.TellsSystem identity) ∧
    (call.request.PostsTo "/api/auth/login" → call.LogsIn) ∧
    (call.request.PostsTo "/api/auth/logout" →
      call.Answers loggedOut (call.gateway.logout (tokenOf? call.request.headers))) ∧
    (call.request.path = "/api/auth/check" → call.request.Reads →
      call.Answers (.json 200 (call.gateway.check call.now call.request.headers).json)
        call.gateway) ∧
    (∀ page : OpenPage, call.request.path = page.path →
      (Page.openTo page).methods.accepts call.request.method = false → call.IsTurnedAway) := by
  refine ⟨?_, ?_, call.logsIn, call.answers_logout, call.answers_check, ?_⟩
  · intro page isPage onPath
    have found : Page.find? call.extra call.request.path = some (.guarded page) := by
      rw [onPath, Page.find?_guarded distinct apart isPage]
    have outcome := call.answered_guarded asks found
    exact {
      exchanges := by rw [outcome]
      kept := by rw [outcome]
      shown := fun identity => Call.shows_of_allowed asks found
      misused := fun identity => Call.isMisused_of_allowed asks found
      challenged := Call.isChallenged_of_denied asks found
      unseen := fun other => Call.answered_answering other asks found }
  · intro onPath gets identity allowed
    have found : Page.find? call.extra call.request.path = some (.guarded .system) := by
      rw [onPath]
      rfl
    have shown := (Call.shows_of_allowed asks found allowed (.inl gets)).response
    unfold Call.TellsSystem
    rw [shown, finished_body, gets, if_neg (by decide)]
    cases identity <;> rfl
  · intro page onPath refuses
    exact call.isTurnedAway asks (call.find?_open onPath) refuses

/-- A page with a note of its own: it runs for the configured user, and not for a stranger. -/
theorem guarded_pages_status :
    let noted : Log.Event := ⟨.info, .server, "Status shown", []⟩
    let status : ExtraPage := ⟨"/api/status", fun _ identity =>
      .note noted (.done (.json 200 identity.json)), fun _ _ => .note (.done _)⟩
    let call (headers : Http.Headers) : Call := ⟨⟨"host", "cpu", ""⟩, [status],
      .fixed "admin" "pw", 0, [], ⟨"GET", "/api/status", headers, []⟩, Router.unreachable "", []⟩
    let admin := call [.ofText "authorization" "Basic YWRtaW46cHc="]
    let stranger := call []
    (∀ headers, ((call headers).extra.map (·.path)).Nodup ∧
      (∀ added ∈ (call headers).extra, added.path ∉ reservedPaths) ∧
      (call headers).request.method ≠ "OPTIONS") ∧
    admin.answered.value.1 =
      finished admin.request (shared (.json 200 (Identity.user "admin").json)) ∧
    noted ∈ admin.answered.events ∧
    stranger.answered.value.1.status = 401 ∧ noted ∉ stranger.answered.events := by
  intro noted status call admin stranger
  have distinct : ([status].map (·.path)).Nodup := by simp
  have apart : ∀ added ∈ [status], added.path ∉ reservedPaths := by
    intro added member
    cases List.mem_singleton.mp member
    decide
  have asks : "GET" ≠ "OPTIONS" := by decide
  have onPath (headers : Http.Headers) :
      Request.path ⟨"GET", "/api/status", headers, []⟩ = "/api/status" := by
    simp only [Request.path]
    decide
  have guarded (headers : Http.Headers) : (call headers).IsGuarded (.extra status) :=
    (guarded_pages (call headers) distinct apart asks).1 _ (.inr ⟨_, List.mem_cons_self, rfl⟩)
      (onPath headers)
  have allowed : admin.judged.value.1 = .allowed (.user "admin") := rfl
  have shown := (guarded _).shown _ allowed (.inl rfl)
  have challenged := (guarded []).challenged rfl
  refine ⟨fun headers => ⟨distinct, apart, asks⟩, shown.response, ?_, challenged.status, ?_⟩
  · rw [shown.events]
    decide
  · rw [challenged.events]
    decide

end RouterGate.Api
