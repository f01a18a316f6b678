import RouterGate.Api.Answer
import RouterGate.Proofs.Router.Yields
/-!
What a request to the API makes of the gateway. Only three things can happen to it: someone logs
in, someone logs out, or a guarded page has it decide.
-/
namespace RouterGate.Api

open Router.Dialogue

def Request.PostsTo (request : Request) (path : String) : Prop :=
  request.method = "POST" ∧ request.path = path

def loginAnswer (host : Host) (kept : Gateway) : Except Fault LoginResult → Response
  | .ok result => loggedIn result kept.sessionTtl?
  | .error fault => loginFailed host fault

/-- How a request can be answered. -/
inductive Answered (host : Host) (extra : List ExtraPage) (gateway : Gateway) (now : Nat)
    (draws : List Draw) (request : Request) :
    List Router.Exchange → Response → Gateway → Prop
  | still {response : Response}
      (noLogin : request.PostsTo OpenPage.login.path → response.status ≠ 200)
      (noLogout : ¬request.PostsTo OpenPage.logout.path) :
      Answered host extra gateway now draws request [] response gateway
  | login {credentials : LoginRequest} {exchanges : List Router.Exchange}
      {result : Except Fault LoginResult} {kept : Gateway}
      (posts : request.PostsTo OpenPage.login.path) (small : request.body.length ≤ bodyLimit)
      (read : LoginRequest.read? request.body = some credentials)
      (held : (gateway.login now credentials.username credentials.password draws).Yields
        exchanges (result, kept)) :
      Answered host extra gateway now draws request exchanges
        (finished request (shared (loginAnswer host kept result))) kept
  | logout (posts : request.PostsTo OpenPage.logout.path) :
      Answered host extra gateway now draws request [] (finished request (shared loggedOut))
        (gateway.logout (tokenOf? request.headers))
  | guarded {page : GuardedPage} {exchanges : List Router.Exchange} {decision : Decision}
      {kept : Gateway} {response : Response}
      (found : Page.find? extra request.path = some (.guarded page))
      (asks : request.method ≠ "OPTIONS")
      (held : (gateway.authorize now request.headers).Yields exchanges (decision, kept))
      (answers : (guardedAnswer host kept request page decision).Yields [] response) :
      Answered host extra gateway now draws request exchanges
        (finished request (shared (withAllowed extra request response))) kept

theorem Page.find?_logout (extra : List ExtraPage) :
    Page.find? extra OpenPage.logout.path = some (.openTo .logout) := rfl

theorem Page.path_of_find? {extra : List ExtraPage} {path : String} {page : Page}
    (found : Page.find? extra path = some page) : page.path = path := by
  have named := List.find?_some found
  exact beq_iff_eq.mp named

theorem finished_status (request : Request) (response : Response) :
    (finished request response).status = response.status := by
  unfold finished
  split <;> rfl

theorem finished_headers (request : Request) (response : Response) :
    (finished request response).headers =
      response.headers ++ [.ofText "content-length" (toString response.body.length)] := by
  unfold finished
  split <;> rfl

theorem shared_status (response : Response) : (shared response).status = response.status := rfl

theorem withAllowed_status (extra : List ExtraPage) (request : Request) (response : Response) :
    (withAllowed extra request response).status = response.status := by
  unfold withAllowed
  split
  next => rfl
  next => split <;> rfl

theorem withAllowed_of_accepts {extra : List ExtraPage} {request : Request} {page : Page}
    (found : Page.find? extra request.path = some page)
    (accepts : page.methods.accepts request.method = true) (response : Response) :
    withAllowed extra request response = response := by
  simp only [withAllowed, found, accepts, if_true]

theorem login_answered {host : Host} {extra : List ExtraPage} {gateway : Gateway} {now : Nat}
    {draws : List Draw} {request : Request} {exchanges : List Router.Exchange}
    {response : Response} {kept : Gateway}
    (posts : request.PostsTo OpenPage.login.path)
    (held : (login host gateway now draws request.body).Yields exchanges (response, kept)) :
    Answered host extra gateway now draws request exchanges (finished request (shared response))
      kept := by
  have noLogout : ¬request.PostsTo OpenPage.logout.path := by
    intro posts'
    exact absurd (posts.2.symm.trans posts'.2) (by decide)
  have refused {reason : Response} (bad : reason.status ≠ 200) :
      Answered host extra gateway now draws request [] (finished request (shared reason))
        gateway := by
    refine .still ?_ noLogout
    intro
    rw [finished_status]
    exact bad
  unfold login at held
  split at held
  next =>
    simp only [yields_done_iff, Prod.mk.injEq] at held
    obtain ⟨rfl, rfl, rfl⟩ := held
    exact refused (by decide)
  next small =>
    split at held
    next =>
      simp only [yields_done_iff, Prod.mk.injEq] at held
      obtain ⟨rfl, rfl, rfl⟩ := held
      exact refused (by simp [refusal, Response.json])
    next =>
      cases read : LoginRequest.read? request.body with
      | none =>
          simp only [read, yields_note_iff, yields_done_iff, Prod.mk.injEq] at held
          obtain ⟨rfl, rfl, rfl⟩ := held
          exact refused (by simp [refusal, Response.json])
      | some credentials =>
          simp only [read] at held
          obtain ⟨first, ⟨result, after⟩, second, rfl, asked, later⟩ := yields_bind_iff.mp held
          cases result with
          | ok result =>
              simp only [yields_pure_iff, Prod.mk.injEq] at later
              obtain ⟨rfl, rfl, rfl⟩ := later
              rw [List.append_nil]
              exact .login posts (Nat.not_lt.mp small) read asked
          | error fault =>
              simp only [yields_say_iff, yields_pure_iff, Prod.mk.injEq] at later
              obtain ⟨rfl, rfl, rfl⟩ := later
              rw [List.append_nil]
              exact .login posts (Nat.not_lt.mp small) read asked

theorem asksNothing_guardedAnswer (host : Host) (kept : Gateway) (request : Request)
    (page : GuardedPage) (decision : Decision) :
    (guardedAnswer host kept request page decision).AsksNothing := by
  cases decision with
  | denied => exact .note (.done unauthorized)
  | allowed identity =>
      rw [guardedAnswer]
      split
      · cases page with
        | system => exact .done _
        | extra added => exact added.handler.asksNothing request identity
      · exact .done wrongMethod

theorem guard_answered {host : Host} {extra : List ExtraPage} {gateway : Gateway} {now : Nat}
    {draws : List Draw} {request : Request} {page : GuardedPage}
    {exchanges : List Router.Exchange} {response : Response} {kept : Gateway}
    (found : Page.find? extra request.path = some (.guarded page))
    (asks : request.method ≠ "OPTIONS")
    (held : (guard host gateway now request page).Yields exchanges (response, kept)) :
    Answered host extra gateway now draws request exchanges
      (finished request (shared (withAllowed extra request response))) kept := by
  unfold guard at held
  obtain ⟨first, ⟨decision, after⟩, second, rfl, asked, later⟩ := yields_bind_iff.mp held
  obtain ⟨shown, answers, same⟩ := yields_map_iff.mp later
  obtain ⟨rfl, rfl⟩ := Prod.mk.inj same
  obtain rfl := (asksNothing_guardedAnswer host kept request page decision).eq_nil answers
  rw [List.append_nil]
  exact .guarded found asks asked answers

theorem open_answered {host : Host} {extra : List ExtraPage} {gateway : Gateway} {now : Nat}
    {draws : List Draw} {request : Request} {page : OpenPage} {exchanges : List Router.Exchange}
    {response : Response} {kept : Gateway}
    (found : Page.find? extra request.path = some (.openTo page))
    (held : (if (Page.openTo page).methods.accepts request.method then
      showOpen host gateway now draws request page
      else .done (wrongMethod, gateway)).Yields exchanges (response, kept)) :
    Answered host extra gateway now draws request exchanges
      (finished request (shared (withAllowed extra request response))) kept := by
  have onPath : page.path = request.path := Page.path_of_find? found
  split at held
  next accepts =>
    rw [withAllowed_of_accepts found accepts]
    cases page with
    | login => exact login_answered ⟨beq_iff_eq.mp accepts, onPath.symm⟩ held
    | logout =>
        simp only [showOpen, logout, yields_tell_iff, yields_pure_iff, Prod.mk.injEq] at held
        obtain ⟨rfl, rfl, rfl⟩ := held
        exact .logout ⟨beq_iff_eq.mp accepts, onPath.symm⟩
    | check =>
        simp only [showOpen, yields_done_iff, Prod.mk.injEq] at held
        obtain ⟨rfl, rfl, rfl⟩ := held
        apply Answered.still
        all_goals
          intro posts
          exact absurd (onPath.trans posts.2) (by decide)
  next refuses =>
    simp only [yields_done_iff, Prod.mk.injEq] at held
    obtain ⟨rfl, rfl, rfl⟩ := held
    apply Answered.still
    · intro
      rw [finished_status, shared_status, withAllowed_status]
      decide
    · intro posts
      rw [posts.2, Page.find?_logout] at found
      cases found
      exact refuses (beq_iff_eq.mpr posts.1)

theorem content_answered {host : Host} {extra : List ExtraPage} {gateway : Gateway}
    {now : Nat} {draws : List Draw} {request : Request} {exchanges : List Router.Exchange}
    {response : Response} {kept : Gateway} (asks : request.method ≠ "OPTIONS")
    (held : (content host extra gateway now draws request).Yields exchanges (response, kept)) :
    Answered host extra gateway now draws request exchanges
      (finished request (shared (withAllowed extra request response))) kept := by
  unfold content at held
  cases found : Page.find? extra request.path with
  | none =>
      simp only [found, yields_done_iff, Prod.mk.injEq] at held
      obtain ⟨rfl, rfl, rfl⟩ := held
      apply Answered.still
      all_goals
        intro posts
        rw [posts.2] at found
        cases found
  | some page =>
      cases page with
      | guarded page =>
          simp only [found] at held
          exact guard_answered found asks held
      | openTo page =>
          simp only [found] at held
          exact open_answered found held

/-- Every answer is one of these. -/
theorem answered_of_yields {host : Host} {extra : List ExtraPage} {gateway : Gateway}
    {now : Nat} {draws : List Draw} {request : Request} {exchanges : List Router.Exchange}
    {response : Response} {kept : Gateway}
    (held : (respond host extra gateway now draws request).Yields exchanges (response, kept)) :
    Answered host extra gateway now draws request exchanges response kept := by
  unfold respond at held
  split at held
  next options =>
    simp only [yields_done_iff, Prod.mk.injEq] at held
    obtain ⟨rfl, rfl, rfl⟩ := held
    apply Answered.still
    all_goals
      intro posts
      exact absurd (options.symm.trans posts.1) (by decide)
  next asks =>
    obtain ⟨first, ⟨⟨shown, after⟩, took⟩, second, rfl, timed, later⟩ :=
      yields_bind_iff.mp held
    obtain ⟨shows, -⟩ := yields_timed_iff.mp timed
    simp only [yields_say_iff, yields_pure_iff, Prod.mk.injEq] at later
    obtain ⟨rfl, rfl, rfl⟩ := later
    rw [List.append_nil]
    exact content_answered asks shows

theorem loggedIn_sets_iff {request : Request} {user token : String} {ttl : Nat}
    {value : String} :
    Http.Header.ofText "set-cookie" value ∈
        (finished request (shared (loggedIn ⟨user, some token⟩ (some ttl)))).headers ↔
      value = Http.Cookie.settingSession token ttl := by
  rw [finished_headers]
  have names : "set-cookie" ≠ "content-type" ∧ "set-cookie" ≠ "access-control-allow-origin" ∧
      "set-cookie" ≠ "access-control-expose-headers" ∧ "set-cookie" ≠ "vary" ∧
      "set-cookie" ≠ "content-length" := by decide
  simp only [loggedIn, shared, done, Response.withHeader, Response.json, Http.Header.ofText,
    List.mem_append, List.mem_singleton, Http.Header.mk.injEq, names, false_and, false_or,
    or_false, true_and]
  constructor
  · exact Bytes.ofString_injective
  · intro same
    subst same
    rfl

theorem loginStatus_ne_ok (fault : Fault) : fault.loginStatus ≠ 200 := by
  cases fault <;> simp [Fault.loginStatus]

end RouterGate.Api
