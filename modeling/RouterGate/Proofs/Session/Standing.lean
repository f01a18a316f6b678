import RouterGate.Proofs.Session.Access
import RouterGate.Proofs.Session.History
/-!
What a login makes of the sessions, in full, and how long a session that it gave out stays: until
it expires, unless it is ended.
-/
namespace RouterGate

open Router.Dialogue

/-- What a source of random bytes gives. -/
def Draw.ofSource : Except String Bytes → Draw
  | .ok bytes => .token (String.ofList (Text.Hex.ofBytes bytes))
  | .error reason => .failure reason

namespace SessionStore

/-- What the router's word on a login makes of the sessions. -/
def granting (store : SessionStore) (moment : Nat) (draws : List Draw) :
    Except Fault Router.Login → Except Fault LoginResult × SessionStore
  | .error fault => (.error fault, store)
  | .ok confirmed =>
      match store.create moment confirmed.username draws with
      | .error fault => (.error fault, store)
      | .ok (token, grown) => (.ok ⟨confirmed.username, some token⟩, grown)

section Login

variable (store : SessionStore) (endpoint : Router.Endpoint) (now : Nat)
  (username password : String) (draws : List Draw) (router : Router.Behavior)
  (past : List Router.Exchange)

theorem run_login :
    let confirmed := (endpoint.login username password).run router past
    let moment := now + duration confirmed.exchanges
    let asked := (store.login endpoint now username password draws).run router past
    asked.value = (store.passTime now moment).granting moment draws confirmed.value ∧
      asked.exchanges = confirmed.exchanges := by
  simp only [login, run_seq, run_timed]
  generalize (endpoint.login username password).run router past = confirmed
  have took : confirmed.elapsed = duration confirmed.exchanges := rfl
  rw [took]
  cases came : confirmed.value with
  | error fault => exact ⟨rfl, List.append_nil _⟩
  | ok login =>
      simp only [granting]
      cases (store.passTime now (now + duration confirmed.exchanges)).create
          (now + duration confirmed.exchanges) login.username draws with
      | error fault => exact ⟨rfl, List.append_nil _⟩
      | ok made => exact ⟨rfl, List.append_nil _⟩

/-- A login either fails, or adds a session under a fresh token that was drawn. -/
theorem granting_login :
    let confirmed := (endpoint.login username password).run router past
    let granted := store.granting now draws confirmed.value
    (∃ fault, granted = (.error fault, store)) ∨
      ∃ token, granted = (.ok ⟨username, some token⟩, store.add now username token) ∧
        store.find? token = none ∧ Draw.token token ∈ draws := by
  intro confirmed
  have conversed : Router.Conversed endpoint username password confirmed.exchanges
      confirmed.value := Router.conversed_of_yields (yields_run router past _)
  cases came : confirmed.value with
  | error fault => exact .inl ⟨fault, rfl⟩
  | ok login =>
      rw [came] at conversed
      simp only [granting, conversed.username_eq]
      cases created : store.create now username draws with
      | error fault => exact .inl ⟨fault, rfl⟩
      | ok made =>
          obtain ⟨token, grown⟩ := made
          obtain ⟨drawn, rfl⟩ := create_eq_ok_iff.mp created
          obtain ⟨known, rest, rfl, -⟩ := freshToken_eq_ok_iff.mp drawn
          exact .inr ⟨token, rfl, find?_freshToken drawn,
            List.mem_append_right _ List.mem_cons_self⟩

end Login

end SessionStore

theorem Gateway.run_login_sessions {gateway : Gateway} {endpoint : Router.Endpoint}
    {store : SessionStore} (backend : gateway.backend = .delegated endpoint (.sessions store))
    (now : Nat) (username password : String) (draws : List Draw) (router : Router.Behavior)
    (past : List Router.Exchange) :
    let confirmed := (endpoint.login username password).run router past
    let moment := now + duration confirmed.exchanges
    let granted := (store.passTime now moment).granting moment draws confirmed.value
    let asked := (gateway.login now username password draws).run router past
    asked.value =
        (granted.1, { gateway with backend := .delegated endpoint (.sessions granted.2) }) ∧
      asked.exchanges = confirmed.exchanges := by
  obtain ⟨value, exchanges⟩ := store.run_login endpoint now username password draws router past
  simp only [login, backend, run_seq, run_pure, List.append_nil, value, exchanges, and_self]

/-- A session is stored, and no other one under its token. -/
def SessionStore.Holds (store : SessionStore) (session : Session) : Prop :=
  session ∈ store.sessions ∧ ∀ other ∈ store.sessions, other.token = session.token → other = session

namespace SessionStore.Holds

variable {store next : SessionStore} {session : Session} {now : Nat}

theorem lookup?_eq (holds : store.Holds session) (live : now < session.expiresAt) :
    store.lookup? now session.token = some session := by
  rw [lookup?_eq_some_iff]
  refine ⟨?_, live⟩
  cases found : store.find? session.token with
  | none => exact absurd rfl (find?_eq_none_iff.mp found session holds.1)
  | some other =>
      have named := List.find?_some found
      rw [holds.2 other (List.mem_of_find?_eq_some found) (beq_iff_eq.mp named)]

theorem trims (holds : store.Holds session) (trims : store.Trims now next)
    (live : now < session.expiresAt) : next.Holds session :=
  ⟨trims.live session holds.1 live, fun other stored => holds.2 other (trims.sublist.subset stored)⟩

theorem of_add {owner token : String} (fresh : store.find? token = none) :
    (store.add now owner token).Holds ⟨token, owner, now + store.ttl⟩ := by
  refine ⟨List.mem_cons_self, ?_⟩
  intro other stored same
  rcases List.mem_cons.mp stored with rfl | earlier
  · rfl
  · exact absurd same (find?_eq_none_iff.mp fresh other earlier)

theorem effect {step : Step} (holds : store.Holds session)
    (effect : SessionEffect store step next) (live : step.ended < session.expiresAt)
    (unended : ¬step.Ends session.token) : next.Holds session := by
  cases effect with
  | kept trims noIssue noEnd => exact holds.trims trims live
  | issued issues only noEnd confirmed trims fresh =>
      have held := holds.trims trims live
      refine ⟨List.mem_cons_of_mem _ held.1, ?_⟩
      intro other stored same
      rcases List.mem_cons.mp stored with rfl | earlier
      · exact absurd same.symm (find?_eq_none_iff.mp fresh session held.1)
      · exact held.2 other earlier same
  | ended ends only noIssue =>
      refine ⟨mem_destroy_iff.mpr ⟨holds.1, ?_⟩, ?_⟩
      · intro same
        rw [same] at unended
        exact unended ends
      · intro other stored same
        exact holds.2 other (mem_destroy_iff.mp stored).1 same

end SessionStore.Holds

def Service.Holds (service : Service) (session : Session) : Prop :=
  ∃ endpoint store, service.gateway.backend = .delegated endpoint (.sessions store) ∧
    store.Holds session

namespace Service.Holds

variable {service : Service} {session : Session}

theorem act (holds : service.Holds session) (router : Router.Behavior) (action : Action)
    (live : (service.act router action).2.now < session.expiresAt)
    (unended : ¬(service.act router action).1.Ends session.token) :
    (service.act router action).2.Holds session := by
  obtain ⟨endpoint, store, backend, held⟩ := holds
  obtain ⟨next, nextBackend, effect⟩ := act_sessionEffect router action backend
  exact ⟨endpoint, next, nextBackend, held.effect effect live unended⟩

theorem wake (holds : service.Holds session) (live : service.now < session.expiresAt) :
    service.wake.Holds session := by
  obtain ⟨endpoint, store, backend, held⟩ := holds
  refine ⟨endpoint, store.reap service.now, ?_, held.trims (store.trims_reap service.now) live⟩
  simp only [Service.wake, Gateway.reaped, backend]

theorem play (holds : service.Holds session) (router : Router.Behavior) (moves : List Move)
    (live : (service.play router moves).2.now < session.expiresAt)
    (unended : ∀ step ∈ (service.play router moves).1, ¬step.Ends session.token) :
    (service.play router moves).2.Holds session := by
  refine play_holds router
    (fun steps later => later.now < session.expiresAt →
      (∀ step ∈ steps, ¬step.Ends session.token) → later.Holds session)
    ?_ ?_ (fun _ _ => holds) moves live unended
  · intro steps later action stands live unended
    have before := stands (Nat.lt_of_le_of_lt (now_le_act router later action) live)
      fun step member => unended step (List.mem_append_left _ member)
    exact before.act router action live
      (unended _ (List.mem_append_right _ List.mem_cons_self))
  · intro steps later stands live unended
    exact (stands live unended).wake live

theorem authorize (holds : service.Holds session) (live : service.now < session.expiresAt)
    (router : Router.Behavior) {headers : Http.Headers}
    (presents : Http.Cookie.PresentsFirst headers "tt_session" session.token) :
    (service.act router (.authorize headers)).1.result =
      .decided (.allowed (.user session.owner)) := by
  obtain ⟨endpoint, store, backend, held⟩ := holds
  obtain ⟨decision, decides, came⟩ :=
    authorize_yields_iff.mp (act_yields router service (.authorize headers))
  rw [Gateway.authorize_sessions backend] at decides
  obtain ⟨rfl, -⟩ := Prod.mk.inj (yields_done_iff.mp decides).2
  rw [came, Result.decided.injEq, SessionStore.decide_eq_allowed_iff]
  exact ⟨session, SessionStore.presented?_eq_some_iff.mpr
    ⟨session.token, presents, held.lookup?_eq live⟩, rfl⟩

end Service.Holds

end RouterGate
