import RouterGate.Proofs.Verdict.Judging
import RouterGate.Proofs.Verdict.Known
/-!
When the router is asked. A request on which a verdict is known gets that verdict in silence; else
the router is asked once, and then not again for the time of the cache, unless someone logs in or
the router gave no verdict.
-/
namespace RouterGate

open Router.Dialogue

inductive Step.LogsIn (step : Step) : Credentials → Prop
  | login {username password : String} {draws : List Draw}
      (acted : step.action = .login username password draws) : step.LogsIn ⟨username, password⟩
  | page {host : Api.Host} {extra : List Api.ExtraPage} {request : Api.Request}
      {draws : List Draw} {username password : String}
      (acted : step.action = .answer host extra request draws)
      (posts : request.PostsTo "/api/auth/login") (small : request.body.length ≤ Api.bodyLimit)
      (read : Api.LoginRequest.read? request.body = some ⟨username, password⟩) :
      step.LogsIn ⟨username, password⟩

/-- Nobody logs in with a key in some steps. -/
def NoLogin (steps : List Step) (key : String) : Prop :=
  ∀ step ∈ steps, ∀ given, step.LogsIn given → (Presented.credentials given).key ≠ key

def Unheard (steps : List Step) (endpoint : Router.Endpoint) (key : String) : Prop :=
  ∀ step ∈ steps, ∀ asked isValid, asked.key = key → ¬step.Hears endpoint asked isValid

namespace Gateway

variable {gateway kept : Gateway} {endpoint : Router.Endpoint} {cache : VerdictCache} {now : Nat}
  {exchanges : List Router.Exchange}

theorem silent_of_known (backend : gateway.backend = .delegated endpoint (.verdicts cache))
    {headers : Http.Headers} {asked : Presented}
    (presents : Presented.ofHeaders? headers = some asked) {isValid : Bool}
    (known : cache.get? now asked.key = some isValid) {decision : Decision}
    (held : (gateway.authorize now headers).Yields exchanges (decision, kept)) :
    exchanges = [] := by
  simp only [authorize, backend, presents] at held
  obtain ⟨judged, judges, -⟩ := yields_map_iff.mp held
  simp only [VerdictCache.judge, known, yields_say_iff, yields_pure_iff] at judges
  exact judges.1

end Gateway

namespace Service

variable {service : Service} {endpoint : Router.Endpoint} {cache : VerdictCache}

/-- What is heard is heard at a login, or was unknown. -/
theorem unknown_of_hears (router : Router.Behavior) (action : Action)
    (backend : service.gateway.backend = .delegated endpoint (.verdicts cache))
    {asked : Presented} {isValid : Bool}
    (hears : (service.act router action).1.Hears endpoint asked isValid) :
    (∃ given, (service.act router action).1.LogsIn given ∧ asked = .credentials given) ∨
      cache.get? service.now asked.key = none := by
  have held := act_yields router service action
  generalize (service.act router action).2.gateway = kept at held
  have acts : (service.act router action).1.action = action := rfl
  generalize service.act router action = acted at hears held acts ⊢
  obtain ⟨⟨did, result, started, ended, exchanges, events⟩, later⟩ := acted
  subst acts
  have spoken : exchanges ≠ [] := Presented.ne_nil_of_verify hears.2
  have unknown {headers : Http.Headers} {decision : Decision} {next : Gateway}
      (presents : Presented.ofHeaders? headers = some asked)
      (decides : (service.gateway.authorize service.now headers).Yields exchanges
        (decision, next)) : cache.get? service.now asked.key = none := by
    cases known : cache.get? service.now asked.key with
    | none => rfl
    | some verdict =>
        exact absurd (Gateway.silent_of_known backend presents known decides) spoken
  cases hears.1 with
  | authorize acted presents =>
      cases acted
      obtain ⟨decision, decides, -⟩ := authorize_yields_iff.mp held
      exact .inr (unknown presents decides)
  | login acted => exact .inl ⟨_, .login acted, rfl⟩
  | loginPage acted posts small read => exact .inl ⟨_, .page acted posts small read, rfl⟩
  | guardedPage acted found asks presents =>
      cases acted
      obtain ⟨response, answers, -⟩ := answer_yields_iff.mp held
      have answered := Api.answered_of_yields answers
      clear held answers hears
      cases answered with
      | still noLogin noLogout => exact absurd rfl spoken
      | logout posts => exact absurd rfl spoken
      | login posts small read held =>
          rw [posts.2] at found
          cases found
      | guarded found' asks' decides answers => exact .inr (unknown presents decides)

section Runs

variable {ttl : Nat} {steps : List Step} {verdict : Verdict}

theorem Recalls.stands_act (recalls : service.Recalls endpoint ttl steps)
    (stems : verdict.Stems endpoint ttl steps) (router : Router.Behavior) (action : Action)
    (live : (service.act router action).2.now < verdict.expiresAt)
    (noLogin : ∀ given, (service.act router action).1.LogsIn given →
      (Presented.credentials given).key ≠ verdict.key) :
    verdict.Stems endpoint ttl (steps ++ [(service.act router action).1]) := by
  obtain ⟨cache, backend, accounts, complete⟩ := recalls
  apply stems.concat
  intro asked isValid same hears
  rcases unknown_of_hears router action backend hears with ⟨given, logsIn, rfl⟩ | unknown
  · exact noLogin given logsIn same
  · have still := Nat.lt_of_le_of_lt (now_le_act router service action) live
    have known := (VerdictCache.get?_eq_some_iff accounts complete (Nat.le_refl _)).mpr
      ⟨verdict.expiresAt, stems, still⟩
    rw [same, known] at unknown
    cases unknown

/-- A verdict stands until it expires, unless someone logs in with its key. -/
theorem Recalls.stands (recalls : service.Recalls endpoint ttl steps)
    (stems : verdict.Stems endpoint ttl steps) (router : Router.Behavior) (moves : List Move)
    (live : (service.play router moves).2.now < verdict.expiresAt)
    (noLogin : NoLogin (service.play router moves).1 verdict.key) :
    verdict.Stems endpoint ttl (steps ++ (service.play router moves).1) := by
  refine (play_holds router
    (fun more later => later.Recalls endpoint ttl (steps ++ more) ∧
      (later.now < verdict.expiresAt → NoLogin more verdict.key →
        verdict.Stems endpoint ttl (steps ++ more))) ?_ ?_ ?_ moves).2 live noLogin
  · intro more later action stood
    obtain ⟨recalls, stands⟩ := stood
    rw [← List.append_assoc]
    refine ⟨recalls.act router action, ?_⟩
    intro live noLogin
    have before := stands (Nat.lt_of_le_of_lt (now_le_act router later action) live)
      fun step member => noLogin step (List.mem_append_left _ member)
    exact recalls.stands_act before router action live
      (noLogin _ (List.mem_append_right _ List.mem_cons_self))
  · intro more later stood
    exact ⟨stood.1.wake, stood.2⟩
  · rw [List.append_nil]
    exact ⟨recalls, fun _ _ => stems⟩

end Runs

section Authorizing

variable {ttl : Nat} {steps : List Step} {headers : Http.Headers} {asked : Presented}
  (recalls : service.Recalls endpoint ttl steps)

include recalls

theorem Recalls.authorize_nothing (router : Router.Behavior)
    (nothing : Presented.ofHeaders? headers = none) :
    (service.act router (.authorize headers)).1.result = .decided .denied ∧
      (service.act router (.authorize headers)).1.exchanges = [] ∧
      (service.act router (.authorize headers)).2.gateway = service.gateway := by
  obtain ⟨cache, backend, -, -⟩ := recalls
  exact act_authorize_nothing backend router nothing

theorem Recalls.authorize_known (router : Router.Behavior)
    (presents : Presented.ofHeaders? headers = some asked) {isValid : Bool}
    (known : IsKnown steps endpoint ttl service.now asked.key isValid) :
    (service.act router (.authorize headers)).1.result =
        .decided (.ofVerdict asked.identity isValid) ∧
      (service.act router (.authorize headers)).1.exchanges = [] ∧
      (service.act router (.authorize headers)).2.gateway = service.gateway := by
  obtain ⟨cache, backend, accounts, complete⟩ := recalls
  rw [← VerdictCache.get?_eq_some_iff accounts complete (Nat.le_refl _)] at known
  exact act_authorize_known backend router presents known

theorem Recalls.authorize_unknown (router : Router.Behavior)
    (presents : Presented.ofHeaders? headers = some asked)
    (unknown : ∀ isValid, ¬IsKnown steps endpoint ttl service.now asked.key isValid) :
    let verified := (asked.verify endpoint).run router service.past
    let decided := service.act router (.authorize headers)
    decided.1.exchanges = verified.exchanges ∧
      (∀ isValid, verified.value = .ok isValid →
        decided.1.result = .decided (.ofVerdict asked.identity isValid)) ∧
      ∀ fault, verified.value = .error fault →
        decided.1.result = .decided .denied ∧ decided.2.gateway = service.gateway := by
  obtain ⟨cache, backend, accounts, complete⟩ := recalls
  have missing : cache.get? service.now asked.key = none := by
    cases found : cache.get? service.now asked.key with
    | none => rfl
    | some isValid =>
        rw [VerdictCache.get?_eq_some_iff accounts complete (Nat.le_refl _)] at found
        exact absurd found (unknown isValid)
  obtain ⟨spoken, result, kept⟩ := act_authorize_unknown backend router presents missing
  intro verified decided
  refine ⟨spoken, ?_, ?_⟩
  · intro isValid verdict
    rw [result, verdict]
    rfl
  · intro fault verdict
    rw [result, kept, verdict]
    exact ⟨rfl, Gateway.with_backend backend⟩

end Authorizing

/-- Until some moment whoever presents a key gets one verdict in silence, unless someone logs in
with that key. -/
def Repeats (service : Service) (router : Router.Behavior) (key : String) (isValid : Bool)
    (expiry : Nat) : Prop :=
  ∀ moves,
    let steps := (service.play router moves).1
    let later := (service.play router moves).2
    later.now < expiry → NoLogin steps key →
      ∀ headers asked, Presented.ofHeaders? headers = some asked → asked.key = key →
        let again := (later.act router (.authorize headers)).1
        again.result = .decided (.ofVerdict asked.identity isValid) ∧ again.exchanges = []

/-- As long as the router gives no verdict on a key, it is asked whenever the key is presented. -/
def AsksAgain (service : Service) (router : Router.Behavior) (endpoint : Router.Endpoint)
    (key : String) : Prop :=
  ∀ moves,
    let steps := (service.play router moves).1
    let later := (service.play router moves).2
    Unheard steps endpoint key →
      ∀ headers asked, Presented.ofHeaders? headers = some asked → asked.key = key →
        (later.act router (.authorize headers)).1.exchanges =
          ((asked.verify endpoint).run router later.past).exchanges

section Afterwards

variable {ttl : Nat} {steps : List Step} (recalls : service.Recalls endpoint ttl steps)

include recalls

theorem Recalls.repeats {verdict : Verdict} (stems : verdict.Stems endpoint ttl steps)
    (router : Router.Behavior) :
    service.Repeats router verdict.key verdict.isValid verdict.expiresAt := by
  intro moves more later live noLogin headers asked presents same
  have stands := recalls.stands stems router moves live noLogin
  obtain ⟨result, silent, -⟩ := (recalls.play router moves).authorize_known router presents
    ⟨verdict.expiresAt, by rw [same]; exact stands, live⟩
  exact ⟨result, silent⟩

theorem Recalls.asksAgain {key : String} (router : Router.Behavior)
    (unknown : ∀ isValid, ¬IsKnown steps endpoint ttl service.now key isValid) :
    service.AsksAgain router endpoint key := by
  intro moves more later unheard headers asked presents same
  refine ((recalls.play router moves).authorize_unknown router presents ?_).1
  intro isValid known
  obtain ⟨expiresAt, stems, live⟩ := known
  rw [same] at stems
  have forward : service.now ≤ later.now := now_le_play router service moves
  exact unknown isValid ⟨expiresAt, stems.of_append unheard, Nat.lt_of_le_of_lt forward live⟩

end Afterwards

end Service

/-- Nothing presented is denied in silence. A verdict that is known is given in silence, and
changes nothing; what is not known is asked for once, with the credentials if there are any and
else with the cookies. A verdict is then given to whoever presents the same, until it expires or
someone logs in; a fault denies the request, and leaves everything as it was. Keys stand for what
is presented, short of colliding digests. Logins always ask. -/
theorem asks_unless_known (endpoint : Router.Endpoint) (ttl : Nat) (isDegraded : Bool) (now : Nat)
    (past : List Router.Exchange) (router : Router.Behavior) (moves : List Move) :
    let start : Service := ⟨⟨.delegated endpoint (.verdicts (.start ttl)), isDegraded⟩, now, past⟩
    let steps := (start.play router moves).1
    let service := (start.play router moves).2
    (∀ headers,
      let decided := service.act router (.authorize headers)
      (Credentials.presented? headers = none → Presented.routerCookies headers = [] →
        decided.1.result = .decided .denied ∧ decided.1.exchanges = [] ∧
          decided.2.gateway = service.gateway) ∧
      ∀ asked : Presented,
        ((∃ given, Credentials.presented? headers = some given ∧ asked = .credentials given) ∨
          (Credentials.presented? headers = none ∧ Presented.routerCookies headers ≠ [] ∧
            asked = .cookies (Presented.routerCookies headers))) →
        (∀ isValid, IsKnown steps endpoint ttl service.now asked.key isValid →
          decided.1.result = .decided (.ofVerdict asked.identity isValid) ∧
            decided.1.exchanges = [] ∧ decided.2.gateway = service.gateway) ∧
        ((∀ isValid, ¬IsKnown steps endpoint ttl service.now asked.key isValid) →
          let verified := (asked.verify endpoint).run router service.past
          decided.1.exchanges = verified.exchanges ∧
            (∀ isValid, verified.value = .ok isValid →
              decided.1.result = .decided (.ofVerdict asked.identity isValid) ∧
                decided.2.Repeats router asked.key isValid (decided.1.ended + ttl)) ∧
            ∀ fault, verified.value = .error fault →
              decided.1.result = .decided .denied ∧ decided.2.gateway = service.gateway ∧
                decided.2.AsksAgain router endpoint asked.key) ∧
        (∀ other : Presented, other.Matches asked → other.key = asked.key) ∧
        (Digest.IsCollisionFree (IsKeyPreimage (steps ++ [decided.1])) →
          (∀ step ∈ steps ++ [decided.1], ∀ other, step.AsksAbout other → other.Fits) →
          ∀ step ∈ steps, ∀ other, step.AsksAbout other → other.key = asked.key →
            other.Matches asked)) ∧
      ∀ username password draws,
        (service.act router (.login username password draws)).1.exchanges =
          ((endpoint.login username password).run router service.past).exchanges := by
  intro start steps service
  have recalls : service.Recalls endpoint ttl steps :=
    (Service.Recalls.start endpoint ttl isDegraded now past).play router moves
  refine ⟨?_, ?_⟩
  · intro headers decided
    refine ⟨?_, ?_⟩
    · intro noCredentials noCookies
      apply recalls.authorize_nothing router
      simp only [Presented.ofHeaders?, noCredentials, noCookies]
    intro asked presented
    have presents := Presented.ofHeaders?_eq_some_iff.mpr presented
    have asks : decided.1.AsksAbout asked := .authorize rfl presents
    refine ⟨?_, ?_, ?_, ?_⟩
    · intro isValid known
      exact recalls.authorize_known router presents known
    · intro unknown verified
      obtain ⟨spoken, answered, failed⟩ := recalls.authorize_unknown router presents unknown
      have verifies : (asked.verify endpoint).Yields decided.1.exchanges verified.value := by
        rw [spoken]
        exact yields_run router service.past _
      have after := recalls.act router (.authorize headers)
      refine ⟨spoken, ?_, ?_⟩
      · intro isValid verdict
        rw [verdict] at verifies
        exact ⟨answered isValid verdict, after.repeats (.of_hears ⟨asks, verifies⟩ _ _) router⟩
      · intro fault verdict
        rw [verdict] at verifies
        obtain ⟨denied, same⟩ := failed fault verdict
        refine ⟨denied, same, after.asksAgain router ?_⟩
        intro isValid known
        obtain ⟨expiresAt, stems, live⟩ := known
        refine unknown isValid ⟨expiresAt, stems.of_append ?_, ?_⟩
        · intro later member other isValid' _
          rw [List.mem_singleton.mp member]
          exact Step.not_hears_of_fault asks verifies other isValid'
        · exact Nat.lt_of_le_of_lt (Service.now_le_act router service _) live
    · intro other same
      exact Presented.key_eq_of_matches same
    · intro noCollision fits step member other asks' same
      exact matches_of_key_eq noCollision fits (List.mem_append_left _ member)
        (List.mem_append_right _ List.mem_cons_self) asks' asks same
  · intro username password draws
    obtain ⟨cache, backend, -⟩ := recalls
    rw [Service.act_login_run]
    exact (Gateway.run_login_verdicts backend service.now username password draws router
      service.past).2

/-- The cookie of a session at the router is shown once more, spelt in another way and beside one
of the gateway's own: its verdict is known, and of all that was asked about only it has its key. -/
theorem asks_unless_known_respelt :
    let router : Router.Behavior := fun past request =>
      if request.cookie = some "sid=1" ∨ past.length = 1 then ⟨.answered ⟨200, [], .whole []⟩, 5⟩
      else
        ⟨.answered ⟨401, [.ofText "x-ndm-realm" "router", .ofText "x-ndm-challenge" "abc"],
          .whole []⟩, 5⟩
    let endpoint : Router.Endpoint := ⟨"http://router", .tableless, 1000⟩
    let start : Service := ⟨⟨.delegated endpoint (.verdicts (.start 60)), false⟩, 0, []⟩
    let alice : Http.Headers := [.ofText "authorization" "Basic YWxpY2U6cHc="]
    let session : Http.Headers := [.ofText "cookie" "sid=1"]
    let bob : Http.Headers := [.ofText "authorization" "Basic Ym9iOnB3"]
    let respelt : Http.Headers := [.ofText "Cookie" "tt_session=t; sid = 1;"]
    let moves : List Move := [.act (.authorize alice), .act (.authorize session), .wake,
      .act (.authorize bob)]
    let steps := (start.play router moves).1
    let service := (start.play router moves).2
    let decided := service.act router (.authorize respelt)
    let asked : Presented := .cookies [⟨"sid", "1"⟩]
    steps.map (·.result) = [.decided (.allowed (.user "alice")),
        .decided (.allowed .routerSession), .decided .denied] ∧
      decided.1.result = .decided (.allowed .routerSession) ∧ decided.1.exchanges = [] ∧
      IsKnown steps endpoint 60 service.now asked.key true ∧
      ∀ step ∈ steps, ∀ other, step.AsksAbout other → other.key = asked.key →
        other.Matches asked := by
  intro router endpoint start alice session bob respelt moves steps service decided asked
  obtain ⟨results, allowed, silent⟩ :
      steps.map (·.result) = [.decided (.allowed (.user "alice")),
        .decided (.allowed .routerSession), .decided .denied] ∧
      decided.1.result = .decided (.allowed .routerSession) ∧ decided.1.exchanges = [] := by
    decide +kernel
  have asks : ((asked.verify endpoint).run router service.past).exchanges ≠ [] := by decide +kernel
  have acted : (steps ++ [decided.1]).map (·.action) =
      [alice, session, bob, respelt].map .authorize := rfl
  have shown : Presented.routerCookies respelt = [⟨"sid", "1"⟩] := by decide +kernel
  have bare : Credentials.presented? respelt = none := by decide +kernel
  have held := asks_unless_known endpoint 60 false 0 [] router moves
  extract_lets at held
  obtain ⟨authorizes, -⟩ := held
  obtain ⟨-, judged⟩ := authorizes respelt
  obtain ⟨known, unknown, -, apart⟩ :=
    judged asked (.inr ⟨bare, by rw [shown]; exact List.cons_ne_nil _ _, by rw [shown]⟩)
  refine ⟨results, allowed, silent, ?_, ?_⟩
  · -- What is not known is asked for, but nothing was asked.
    obtain ⟨isValid, isKnown⟩ :
        ∃ isValid, IsKnown steps endpoint 60 service.now asked.key isValid := by
      by_contra missing
      rw [not_exists] at missing
      obtain ⟨spoken, -⟩ := unknown missing
      rw [silent] at spoken
      exact asks spoken.symm
    have decision := (known isValid isKnown).1
    rw [allowed, Result.decided.injEq] at decision
    cases isValid with
    | true => exact isKnown
    | false => cases decision
  · exact apart (isCollisionFree_of_authorizes acted (by decide +kernel))
      (fits_of_authorizes acted (by decide +kernel))

end RouterGate
