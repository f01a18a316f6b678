import RouterGate.Proofs.Session.Steps
import RouterGate.Proofs.Since
/-!
Who is let in on sessions. The sessions that are stored are those that were given out and not
ended since, but for some that are expired, and so a token counts exactly as long as the router's
word for it.
-/
namespace RouterGate

def Gateway.sessions (gateway : Gateway) : List Session :=
  match gateway.backend with
  | .delegated _ (.sessions store) => store.sessions
  | _ => []

/-- A session that was given out in one of some steps and not ended in a later one. -/
def Session.Stems (session : Session) (ttl : Nat) (steps : List Step) : Prop :=
  ∃ before login after, steps = before ++ login :: after ∧
    login.Issues ttl session.owner session.token ∧ session.expiresAt = login.ended + ttl ∧
    ∀ later ∈ after, ¬later.Ends session.token

theorem Session.stems_concat_iff {session : Session} {ttl : Nat} {steps : List Step}
    {step : Step} :
    session.Stems ttl (steps ++ [step]) ↔
      (step.Issues ttl session.owner session.token ∧ session.expiresAt = step.ended + ttl) ∨
        (session.Stems ttl steps ∧ ¬step.Ends session.token) := by
  have same (past : List Step) : session.Stems ttl past ↔
      HoldsSince (fun login => login.Issues ttl session.owner session.token ∧
        session.expiresAt = login.ended + ttl) (·.Ends session.token) past := by
    simp only [Session.Stems, HoldsSince, and_assoc]
  rw [same, same, holdsSince_concat_iff]

/-- The sessions that are stored after some steps: each stems from them, none that still counts
is missing, and no two have one token. -/
structure SessionStore.Accounts (store : SessionStore) (ttl : Nat) (steps : List Step)
    (now : Nat) : Prop where
  lasts : store.ttl = ttl
  stems : ∀ session ∈ store.sessions, session.Stems ttl steps
  complete : ∀ session : Session, session.Stems ttl steps → now < session.expiresAt →
    session ∈ store.sessions
  distinct : store.sessions.Pairwise fun first second => first.token ≠ second.token

namespace SessionStore.Accounts

variable {store next : SessionStore} {ttl now : Nat} {steps : List Step} {step : Step}

theorem start (ttl reapEvery born now : Nat) :
    (SessionStore.start ttl reapEvery born).Accounts ttl [] now := by
  refine ⟨rfl, ?_, ?_, List.Pairwise.nil⟩
  · intro session impossible
    cases impossible
  · intro session stems
    obtain ⟨before, login, after, impossible, -⟩ := stems
    cases before <;> cases impossible

theorem trims (accounts : store.Accounts ttl steps now) (trims : store.Trims now next) :
    next.Accounts ttl steps now := by
  refine ⟨trims.ttl.trans accounts.lasts, ?_, ?_, accounts.distinct.sublist trims.sublist⟩
  · intro session stored
    exact accounts.stems session (trims.sublist.subset stored)
  · intro session stems live
    exact trims.live session (accounts.complete session stems live) live

theorem effect (accounts : store.Accounts ttl steps now) (later : now ≤ step.ended)
    (effect : SessionEffect store step next) :
    next.Accounts ttl (steps ++ [step]) step.ended := by
  have keeps {session : Session} (stored : session ∈ store.sessions)
      (unended : ¬step.Ends session.token) : session.Stems ttl (steps ++ [step]) :=
    Session.stems_concat_iff.mpr (.inr ⟨accounts.stems session stored, unended⟩)
  -- The clock does not go back: what counts after the step has counted before it.
  have finds {session : Session} (stems : session.Stems ttl steps)
      (live : step.ended < session.expiresAt) : session ∈ store.sessions :=
    accounts.complete session stems (Nat.lt_of_le_of_lt later live)
  have same := accounts.lasts
  subst same
  cases effect with
  | kept trims noIssue noEnd =>
      refine ⟨trims.ttl, ?_, ?_, accounts.distinct.sublist trims.sublist⟩
      · intro session stored
        exact keeps (trims.sublist.subset stored) (noEnd _)
      · intro session stems live
        rcases Session.stems_concat_iff.mp stems with ⟨issues, -⟩ | ⟨earlier, -⟩
        · exact absurd issues (noIssue _ _)
        · exact trims.live session (finds earlier live) live
  | issued issues only noEnd confirmed trims fresh =>
      refine ⟨trims.ttl, ?_, ?_, ?_⟩
      · intro session stored
        rcases List.mem_cons.mp stored with rfl | earlier
        · refine Session.stems_concat_iff.mpr (.inl ⟨issues, ?_⟩)
          exact congrArg (step.ended + ·) trims.ttl
        · exact keeps (trims.sublist.subset earlier) (noEnd _)
      · intro session stems live
        rcases Session.stems_concat_iff.mp stems with ⟨issues', expires⟩ | ⟨earlier, -⟩
        · obtain ⟨owner, token⟩ := only _ _ issues'
          rw [← trims.ttl] at expires
          obtain ⟨_, _, _⟩ := session
          cases owner
          cases token
          cases expires
          exact List.mem_cons_self
        · exact List.mem_cons_of_mem _ (trims.live session (finds earlier live) live)
      · refine List.pairwise_cons.mpr ⟨?_, accounts.distinct.sublist trims.sublist⟩
        intro session stored
        exact (find?_eq_none_iff.mp fresh session stored).symm
  | ended ends only noIssue =>
      refine ⟨rfl, ?_, ?_, accounts.distinct.sublist List.filter_sublist⟩
      · intro session stored
        obtain ⟨earlier, other⟩ := mem_destroy_iff.mp stored
        exact keeps earlier fun ends' => other (only _ ends')
      · intro session stems live
        rcases Session.stems_concat_iff.mp stems with ⟨issues, -⟩ | ⟨earlier, unended⟩
        · exact absurd issues (noIssue _ _)
        · refine mem_destroy_iff.mpr ⟨finds earlier live, ?_⟩
          intro same
          rw [same] at unended
          exact unended ends

theorem lookup?_eq_some_iff (accounts : store.Accounts ttl steps now) {token : String}
    {session : Session} :
    store.lookup? now token = some session ↔
      session.Stems ttl steps ∧ session.token = token ∧ now < session.expiresAt := by
  rw [SessionStore.lookup?_eq_some_iff, find?_eq_some_iff accounts.distinct]
  constructor
  · intro found
    obtain ⟨⟨stored, same⟩, live⟩ := found
    exact ⟨accounts.stems session stored, same, live⟩
  · intro counts
    obtain ⟨stems, same, live⟩ := counts
    exact ⟨⟨accounts.complete session stems live, same⟩, live⟩

end SessionStore.Accounts

structure Service.KeepsSessions (endpoint : Router.Endpoint) (ttl : Nat) (steps : List Step)
    (service : Service) : Prop where
  accounts : ∃ store, service.gateway.backend = .delegated endpoint (.sessions store) ∧
    store.Accounts ttl steps service.now
  confirmed : ∀ step ∈ steps, ∀ user token, step.Issues ttl user token →
    Router.Confirmed step.exchanges

namespace Service.KeepsSessions

variable {endpoint : Router.Endpoint} {ttl : Nat} {steps : List Step} {service : Service}

theorem act (keeps : service.KeepsSessions endpoint ttl steps) (router : Router.Behavior)
    (action : Action) :
    (service.act router action).2.KeepsSessions endpoint ttl
      (steps ++ [(service.act router action).1]) := by
  obtain ⟨store, backend, accounts⟩ := keeps.accounts
  obtain ⟨next, nextBackend, effect⟩ := act_sessionEffect router action backend
  refine ⟨⟨next, nextBackend, accounts.effect (now_le_act router service action) effect⟩, ?_⟩
  intro step member user token issues
  rcases List.mem_append.mp member with earlier | new
  · exact keeps.confirmed step earlier user token issues
  · rw [List.mem_singleton.mp new] at issues ⊢
    rw [← accounts.lasts] at issues
    exact effect.confirmed_of_issues issues

theorem wake (keeps : service.KeepsSessions endpoint ttl steps) :
    service.wake.KeepsSessions endpoint ttl steps := by
  obtain ⟨store, backend, accounts⟩ := keeps.accounts
  refine ⟨⟨store.reap service.now, ?_, ?_⟩, keeps.confirmed⟩
  · simp only [Service.wake, Gateway.reaped, backend]
  · exact accounts.trims (store.trims_reap service.now)

theorem play {reapEvery born now : Nat} {isDegraded : Bool} {past : List Router.Exchange}
    (router : Router.Behavior) (moves : List Move) :
    let start : Service :=
      ⟨⟨.delegated endpoint (.sessions (.start ttl reapEvery born)), isDegraded⟩, now, past⟩
    (start.play router moves).2.KeepsSessions endpoint ttl (start.play router moves).1 := by
  intro start
  refine play_holds router (fun steps service => service.KeepsSessions endpoint ttl steps)
    ?_ ?_ ?_ moves
  · intro steps service action keeps
    exact keeps.act router action
  · intro steps service keeps
    exact keeps.wake
  · refine ⟨⟨_, rfl, .start ttl reapEvery born now⟩, ?_⟩
    intro step impossible
    cases impossible

end Service.KeepsSessions

/-- The router's word for a token still counts: it was given to a user by a login that ended not
too long ago, and no later step ended it. -/
def IsVouchedFor (steps : List Step) (ttl now : Nat) (user token : String) : Prop :=
  ∃ before login after, steps = before ++ login :: after ∧ login.Issues ttl user token ∧
    login.ended ≤ now ∧ now < login.ended + ttl ∧ ∀ later ∈ after, ¬later.Ends token

theorem isVouchedFor_iff {steps : List Step} {ttl now : Nat} {user token : String}
    (past : ∀ step ∈ steps, step.ended ≤ now) :
    IsVouchedFor steps ttl now user token ↔
      ∃ session : Session, session.Stems ttl steps ∧ session.owner = user ∧
        session.token = token ∧ now < session.expiresAt := by
  constructor
  · intro vouched
    obtain ⟨before, login, after, split, issues, -, live, unended⟩ := vouched
    exact ⟨⟨token, user, login.ended + ttl⟩, ⟨before, login, after, split, issues, rfl, unended⟩,
      rfl, rfl, live⟩
  · intro lives
    obtain ⟨session, stems, rfl, rfl, live⟩ := lives
    obtain ⟨before, login, after, split, issues, expires, unended⟩ := stems
    rw [expires] at live
    refine ⟨before, login, after, split, issues, past login ?_, live, unended⟩
    rw [split]
    exact List.mem_append_right _ List.mem_cons_self

namespace SessionStore

variable {store : SessionStore} {ttl now : Nat} {steps : List Step} {headers : Http.Headers}

theorem presented?_eq_some_iff {session : Session} :
    store.presented? now headers = some session ↔
      ∃ token, Http.Cookie.PresentsFirst headers "tt_session" token ∧
        store.lookup? now token = some session := by
  unfold presented?
  rw [Option.bind_eq_some_iff]
  simp only [Http.Cookie.presentsFirst_iff, Http.Cookie.sessionName]

theorem decide_eq_allowed_iff {user : String} :
    store.decide now headers = .allowed (.user user) ↔
      ∃ session, store.presented? now headers = some session ∧ session.owner = user := by
  unfold decide
  cases store.presented? now headers with
  | none => simp
  | some session => simp

theorem decide_eq_denied_iff :
    store.decide now headers = .denied ↔
      ¬∃ session, store.presented? now headers = some session := by
  unfold decide
  cases store.presented? now headers with
  | none => simp
  | some session => simp

theorem Accounts.presented_iff (accounts : store.Accounts ttl steps now)
    (past : ∀ step ∈ steps, step.ended ≤ now) {user : String} :
    (∃ session, store.presented? now headers = some session ∧ session.owner = user) ↔
      ∃ token, Http.Cookie.PresentsFirst headers "tt_session" token ∧
        IsVouchedFor steps ttl now user token := by
  simp only [presented?_eq_some_iff, accounts.lookup?_eq_some_iff, isVouchedFor_iff past]
  constructor
  · intro presented
    obtain ⟨session, ⟨token, presents, stems, same, live⟩, owner⟩ := presented
    exact ⟨token, presents, session, stems, owner, same, live⟩
  · intro vouched
    obtain ⟨token, presents, session, stems, owner, same, live⟩ := vouched
    exact ⟨session, ⟨token, presents, stems, same, live⟩, owner⟩

end SessionStore

/-- With sessions, a user is let in exactly while the router's word for the presented token
counts, and the router is not asked for it. Only logins that the router confirmed on the spot
give out tokens, and nothing else adds a session. -/
theorem session_access (endpoint : Router.Endpoint) (ttl reapEvery born : Nat)
    (isDegraded : Bool) (now : Nat) (past : List Router.Exchange) (router : Router.Behavior)
    (moves : List Move) :
    let start : Service :=
      ⟨⟨.delegated endpoint (.sessions (.start ttl reapEvery born)), isDegraded⟩, now, past⟩
    let steps := (start.play router moves).1
    let service := (start.play router moves).2
    (∀ headers,
      let asked := (service.act router (.authorize headers)).1
      asked.exchanges = [] ∧
        (∀ user, asked.result = .decided (.allowed (.user user)) ↔
          ∃ token, Http.Cookie.PresentsFirst headers "tt_session" token ∧
            IsVouchedFor steps ttl service.now user token) ∧
        (asked.result = .decided .denied ↔
          ¬∃ user token, Http.Cookie.PresentsFirst headers "tt_session" token ∧
            IsVouchedFor steps ttl service.now user token)) ∧
      (∀ step ∈ steps, ∀ user token, step.Issues ttl user token →
        Router.Confirmed step.exchanges) ∧
      (∀ action, ∀ session ∈ (service.act router action).2.gateway.sessions,
        session ∈ service.gateway.sessions ∨
          (service.act router action).1.Issues ttl session.owner session.token) ∧
      ∀ username password draws fault,
        (service.act router (.login username password draws)).1.result =
            .loggedIn (.error fault) →
          ∀ session ∈ (service.act router (.login username password draws)).2.gateway.sessions,
            session ∈ service.gateway.sessions := by
  intro start steps service
  have keeps : service.KeepsSessions endpoint ttl steps :=
    Service.KeepsSessions.play router moves
  have ended : ∀ step ∈ steps, step.ended ≤ service.now :=
    Service.ended_le_now router start moves
  obtain ⟨store, backend, accounts⟩ := keeps.accounts
  have added : ∀ action, ∀ session ∈ (service.act router action).2.gateway.sessions,
      session ∈ service.gateway.sessions ∨
        (service.act router action).1.Issues ttl session.owner session.token := by
    intro action session stored
    obtain ⟨next, nextBackend, effect⟩ := Service.act_sessionEffect router action backend
    simp only [Gateway.sessions, backend, nextBackend] at stored ⊢
    rw [← accounts.lasts]
    exact effect.stored_or_issues stored
  refine ⟨?_, keeps.confirmed, added, ?_⟩
  · intro headers asked
    have decided : (service.dialogue (.authorize headers)).Yields asked.exchanges
        (asked.result, (service.act router (.authorize headers)).2.gateway) :=
      Service.act_yields router service (.authorize headers)
    obtain ⟨decision, decides, result⟩ := Service.authorize_yields_iff.mp decided
    rw [Gateway.authorize_sessions backend] at decides
    obtain ⟨silent, same⟩ := Router.Dialogue.yields_done_iff.mp decides
    obtain ⟨rfl, -⟩ := Prod.mk.inj same
    refine ⟨silent, ?_, ?_⟩
    · intro user
      rw [result, Result.decided.injEq, SessionStore.decide_eq_allowed_iff]
      exact accounts.presented_iff ended
    · rw [result, Result.decided.injEq, SessionStore.decide_eq_denied_iff]
      apply not_congr
      simp only [← accounts.presented_iff ended]
      constructor
      · intro found
        obtain ⟨session, presented⟩ := found
        exact ⟨session.owner, session, presented, rfl⟩
      · intro found
        obtain ⟨user, session, presented, -⟩ := found
        exact ⟨session, presented⟩
  · intro username password draws fault failed session stored
    rcases added _ session stored with earlier | issues
    · exact earlier
    · cases issues with
      | login came => cases failed.symm.trans came
      | page asked posts read answered accepted sets => cases failed.symm.trans answered

end RouterGate
