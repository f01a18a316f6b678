import RouterGate.Proofs.Api.Pages
import RouterGate.Proofs.Router.LoginOutcome
import RouterGate.Proofs.Service.Moves
import RouterGate.Proofs.Verdict.Key
/-!
What one step makes of the verdicts that are kept: the router's verdict of that step is recorded,
and without one nothing is.
-/
namespace RouterGate

open Router.Dialogue

/-- The router's last word was a plain yes, and it was asked about this identity. -/
inductive Presented.ConfirmedBy (exchanges : List Router.Exchange) : Presented → Prop
  | credentials {given : Credentials}
      (vouched : Router.Vouched given.username given.password exchanges) :
      ConfirmedBy exchanges (.credentials given)
  | cookies {given : List Http.Cookie} {last : Router.Exchange} {answer : Router.Answer}
      (isLast : exchanges.getLast? = some last) (gets : last.request.method = .get)
      (shows : last.request.cookie = some (Http.Cookie.headerText given))
      (arrived : last.reply.delivery = .answered answer) (accepted : answer.status = 200) :
      ConfirmedBy exchanges (.cookies given)

theorem Router.verify_yields_iff {endpoint : Router.Endpoint} {username password : String}
    {exchanges : List Router.Exchange} {verdict : Except Fault Bool} :
    (endpoint.verify username password).Yields exchanges verdict ↔
      ∃ result, (endpoint.login username password).Yields exchanges result ∧
        verdict = Router.verdictOf result := by
  rw [Router.verify_eq]
  exact yields_map_iff

theorem Router.verifyCookies_probed {endpoint : Router.Endpoint} {cookies : String}
    {exchanges : List Router.Exchange} {verdict : Except Fault Bool}
    (held : (endpoint.verifyCookies cookies).Yields exchanges verdict) :
    ∃ reached, Router.Probed endpoint (some cookies) exchanges reached ∧
      verdict = reached.map fun place => decide (place.2.status = 200) := by
  unfold Router.Endpoint.verifyCookies at held
  obtain ⟨first, reached, second, rfl, asked, later⟩ := yields_bind_iff.mp held
  have probed := Router.probed_of_yields asked
  cases reached with
  | error fault =>
      obtain ⟨rfl, rfl⟩ := yields_pure_iff.mp later
      rw [List.append_nil]
      exact ⟨_, probed, rfl⟩
  | ok place =>
      obtain ⟨rfl, rfl⟩ := yields_pure_iff.mp later
      rw [List.append_nil]
      exact ⟨_, probed, rfl⟩

theorem Router.verifyCookies_yields {endpoint : Router.Endpoint} {cookies : String}
    {exchanges : List Router.Exchange} {isValid : Bool}
    (held : (endpoint.verifyCookies cookies).Yields exchanges (.ok isValid)) :
    ∃ address answer, Router.Probed endpoint (some cookies) exchanges (.ok (address, answer)) ∧
      isValid = decide (answer.status = 200) := by
  obtain ⟨reached, probed, same⟩ := Router.verifyCookies_probed held
  cases reached with
  | error fault => cases same
  | ok place => exact ⟨place.1, place.2, probed, Except.ok.inj same⟩

namespace Presented

variable {endpoint : Router.Endpoint} {exchanges : List Router.Exchange}

theorem ne_nil_of_verify {asked : Presented} {isValid : Bool}
    (held : (asked.verify endpoint).Yields exchanges (.ok isValid)) : exchanges ≠ [] := by
  intro silent
  subst silent
  cases asked with
  | credentials given =>
      obtain ⟨result, asked, came⟩ := Router.verify_yields_iff.mp held
      obtain ⟨cause, rfl⟩ := (Router.conversed_of_yields asked).internal_of_nil
      cases came
  | cookies given =>
      obtain ⟨address, answer, probed, -⟩ := Router.verifyCookies_yields held
      obtain ⟨before, last, impossible, -⟩ := probed.of_ok
      exact absurd impossible.symm (List.append_ne_nil_of_right_ne_nil _ (List.cons_ne_nil _ _))

theorem confirmedBy_of_verify {asked : Presented}
    (held : (asked.verify endpoint).Yields exchanges (.ok true)) :
    asked.ConfirmedBy exchanges := by
  cases asked with
  | credentials given =>
      obtain ⟨result, asked, came⟩ := Router.verify_yields_iff.mp held
      obtain ⟨login, rfl⟩ := Router.verdictOf_eq_true_iff.mp came.symm
      exact .credentials (Router.conversed_of_yields asked).vouched
  | cookies given =>
      obtain ⟨address, answer, probed, accepted⟩ := Router.verifyCookies_yields held
      obtain ⟨before, last, rfl, built, arrived⟩ := probed.of_ok
      have isGet := Router.Request.isGet_of_build built
      exact .cookies List.getLast?_concat isGet.method isGet.cookie arrived
        (of_decide_eq_true accepted.symm)

theorem not_confirmedBy_nil (asked : Presented) : ¬asked.ConfirmedBy [] := by
  intro confirmed
  cases confirmed with
  | credentials vouched =>
      cases vouched with
      | trusted isLast gets arrived accepted => cases isLast
      | proved isLast posts responds arrived accepted => cases isLast
  | cookies isLast gets shows arrived accepted => cases isLast

end Presented

/-- A step in which the router may be asked about an identity: one that a request presents, or
one that someone logs in with. -/
inductive Step.AsksAbout (step : Step) : Presented → Prop
  | authorize {headers : Http.Headers} {asked : Presented}
      (acted : step.action = .authorize headers)
      (presents : Presented.ofHeaders? headers = some asked) : step.AsksAbout asked
  | login {username password : String} {draws : List Draw}
      (acted : step.action = .login username password draws) :
      step.AsksAbout (.credentials ⟨username, password⟩)
  | guardedPage {host : Api.Host} {extra : List Api.ExtraPage} {request : Api.Request}
      {draws : List Draw} {page : Api.GuardedPage} {asked : Presented}
      (acted : step.action = .answer host extra request draws)
      (found : Api.Page.find? extra request.path = some (.guarded page))
      (asks : request.method ≠ "OPTIONS")
      (presents : Presented.ofHeaders? request.headers = some asked) : step.AsksAbout asked
  | loginPage {host : Api.Host} {extra : List Api.ExtraPage} {request : Api.Request}
      {draws : List Draw} {username password : String}
      (acted : step.action = .answer host extra request draws)
      (posts : request.PostsTo "/api/auth/login") (small : request.body.length ≤ Api.bodyLimit)
      (read : Api.LoginRequest.read? request.body = some ⟨username, password⟩) :
      step.AsksAbout (.credentials ⟨username, password⟩)

theorem Step.AsksAbout.unique {step : Step} {asked other : Presented}
    (asks : step.AsksAbout asked) (asks' : step.AsksAbout other) : asked = other := by
  cases asks with
  | authorize acted presents =>
      cases asks' with
      | authorize acted' presents' =>
          cases acted.symm.trans acted'
          exact Option.some.inj (presents.symm.trans presents')
      | login acted' => cases acted.symm.trans acted'
      | guardedPage acted' found' asks' presents' => cases acted.symm.trans acted'
      | loginPage acted' posts' small' read' => cases acted.symm.trans acted'
  | login acted =>
      cases asks' with
      | authorize acted' presents' => cases acted.symm.trans acted'
      | login acted' =>
          cases acted.symm.trans acted'
          rfl
      | guardedPage acted' found' asks' presents' => cases acted.symm.trans acted'
      | loginPage acted' posts' small' read' => cases acted.symm.trans acted'
  | guardedPage acted found asks presents =>
      cases asks' with
      | authorize acted' presents' => cases acted.symm.trans acted'
      | login acted' => cases acted.symm.trans acted'
      | guardedPage acted' found' asks' presents' =>
          cases acted.symm.trans acted'
          exact Option.some.inj (presents.symm.trans presents')
      | loginPage acted' posts' small' read' =>
          cases acted.symm.trans acted'
          rw [posts'.2] at found
          cases found
  | loginPage acted posts small read =>
      cases asks' with
      | authorize acted' presents' => cases acted.symm.trans acted'
      | login acted' => cases acted.symm.trans acted'
      | guardedPage acted' found' asks' presents' =>
          cases acted.symm.trans acted'
          rw [posts.2] at found'
          cases found'
      | loginPage acted' posts' small' read' =>
          cases acted.symm.trans acted'
          cases read.symm.trans read'
          rfl

theorem Step.AsksAbout.presents {step : Step} {headers : Http.Headers} {asked : Presented}
    (asks : step.AsksAbout asked) (acted : step.action = .authorize headers) :
    Presented.ofHeaders? headers = some asked := by
  cases asks with
  | authorize acted' presents =>
      cases acted.symm.trans acted'
      exact presents
  | login acted' => cases acted.symm.trans acted'
  | guardedPage acted' found asks presents => cases acted.symm.trans acted'
  | loginPage acted' posts small read => cases acted.symm.trans acted'

theorem Step.AsksAbout.isNamed {step : Step} {asked : Presented}
    (asks : step.AsksAbout asked) : asked.IsNamed := by
  cases asks with
  | authorize acted presents => exact Presented.isNamed_of_ofHeaders? presents
  | login acted => trivial
  | guardedPage acted found asks presents => exact Presented.isNamed_of_ofHeaders? presents
  | loginPage acted posts small read => trivial

def Step.Hears (step : Step) (endpoint : Router.Endpoint) (asked : Presented) (isValid : Bool) :
    Prop :=
  step.AsksAbout asked ∧ (asked.verify endpoint).Yields step.exchanges (.ok isValid)

/-- What a step can make of the verdicts. -/
inductive VerdictEffect (endpoint : Router.Endpoint) (cache : VerdictCache) (step : Step) :
    VerdictCache → Prop
  | kept (unheard : ∀ asked isValid, ¬step.Hears endpoint asked isValid) :
      VerdictEffect endpoint cache step cache
  | heard {asked : Presented} {isValid : Bool} (hears : step.Hears endpoint asked isValid) :
      VerdictEffect endpoint cache step (cache.put step.ended asked.key isValid)

theorem Step.not_hears_of_nil {step : Step} {endpoint : Router.Endpoint}
    (silent : step.exchanges = []) (asked : Presented) (isValid : Bool) :
    ¬step.Hears endpoint asked isValid := by
  intro hears
  obtain ⟨-, held⟩ := hears
  exact Presented.ne_nil_of_verify held silent

theorem Step.not_hears_of_fault {step : Step} {endpoint : Router.Endpoint} {asked : Presented}
    {fault : Fault} (asks : step.AsksAbout asked)
    (held : (asked.verify endpoint).Yields step.exchanges (.error fault)) (other : Presented)
    (isValid : Bool) : ¬step.Hears endpoint other isValid := by
  intro hears
  obtain ⟨asks', held'⟩ := hears
  rw [asks'.unique asks] at held'
  cases held'.unique held

namespace VerdictCache

variable {cache kept : VerdictCache} {endpoint : Router.Endpoint} {now : Nat}
  {exchanges : List Router.Exchange}

theorem record_yields_iff {key : String} {isValid : Bool} :
    (cache.record now key isValid).Yields exchanges kept ↔
      exchanges = [] ∧ kept = cache.put now key isValid := by
  unfold record
  split
  next => exact yields_done_iff
  next => rw [yields_note_iff, yields_done_iff]

/-- How an identity can be judged. -/
inductive Judged (cache : VerdictCache) (endpoint : Router.Endpoint) (now : Nat)
    (asked : Presented) : List Router.Exchange → Bool → VerdictCache → Prop
  | known {isValid : Bool} (found : cache.get? now asked.key = some isValid) :
      Judged cache endpoint now asked [] isValid cache
  | heard {exchanges : List Router.Exchange} {isValid : Bool}
      (held : (asked.verify endpoint).Yields exchanges (.ok isValid)) :
      Judged cache endpoint now asked exchanges isValid
        (cache.put (now + duration exchanges) asked.key isValid)
  | failed {exchanges : List Router.Exchange} {fault : Fault}
      (held : (asked.verify endpoint).Yields exchanges (.error fault)) :
      Judged cache endpoint now asked exchanges false cache

theorem judged_of_yields {asked : Presented} {isValid : Bool}
    (held : (cache.judge endpoint now asked).Yields exchanges (isValid, kept)) :
    cache.Judged endpoint now asked exchanges isValid kept := by
  unfold judge at held
  cases found : cache.get? now asked.key with
  | some known =>
      simp only [found, yields_say_iff, yields_pure_iff, Prod.mk.injEq] at held
      obtain ⟨rfl, rfl, rfl⟩ := held
      exact .known found
  | none =>
      simp only [found] at held
      obtain ⟨first, ⟨verdict, took⟩, second, rfl, timed, later⟩ := yields_bind_iff.mp held
      obtain ⟨plain, rfl⟩ := yields_timed_iff.mp timed
      cases verdict with
      | ok verdict =>
          obtain ⟨third, recorded, fourth, rfl, records, last⟩ := yields_bind_iff.mp later
          obtain ⟨rfl, rfl⟩ := record_yields_iff.mp records
          simp only [yields_pure_iff, Prod.mk.injEq] at last
          obtain ⟨rfl, rfl, rfl⟩ := last
          rw [List.append_nil, List.append_nil]
          exact .heard plain
      | error fault =>
          simp only [yields_say_iff, yields_pure_iff, Prod.mk.injEq] at later
          obtain ⟨rfl, rfl, rfl⟩ := later
          rw [List.append_nil]
          exact .failed plain

inductive LoggedIn (cache : VerdictCache) (endpoint : Router.Endpoint) (now : Nat)
    (username password : String) : List Router.Exchange → VerdictCache → Prop
  | heard {exchanges : List Router.Exchange} {isValid : Bool}
      (held : (endpoint.verify username password).Yields exchanges (.ok isValid)) :
      LoggedIn cache endpoint now username password exchanges
        (cache.put (now + duration exchanges) (Verdict.credentialKey username password) isValid)
  | failed {exchanges : List Router.Exchange} {fault : Fault}
      (held : (endpoint.verify username password).Yields exchanges (.error fault)) :
      LoggedIn cache endpoint now username password exchanges cache

theorem loggedIn_of_yields {username password : String} {result : Except Fault LoginResult}
    (held : (cache.login endpoint now username password).Yields exchanges (result, kept)) :
    cache.LoggedIn endpoint now username password exchanges kept := by
  unfold login at held
  obtain ⟨first, ⟨reached, took⟩, second, rfl, timed, later⟩ := yields_bind_iff.mp held
  obtain ⟨plain, rfl⟩ := yields_timed_iff.mp timed
  have verified := Router.verify_yields_iff.mpr ⟨reached, plain, rfl⟩
  cases reached with
  | ok confirmed =>
      obtain ⟨third, recorded, fourth, rfl, records, last⟩ := yields_bind_iff.mp later
      obtain ⟨rfl, rfl⟩ := record_yields_iff.mp records
      simp only [yields_say_iff, yields_pure_iff, Prod.mk.injEq] at last
      obtain ⟨rfl, rfl, rfl⟩ := last
      rw [List.append_nil, List.append_nil]
      exact .heard verified
  | error fault =>
      cases fault with
      | invalidCredentials =>
          obtain ⟨third, recorded, fourth, rfl, records, last⟩ := yields_bind_iff.mp later
          obtain ⟨rfl, rfl⟩ := record_yields_iff.mp records
          simp only [yields_pure_iff, Prod.mk.injEq] at last
          obtain ⟨rfl, rfl, rfl⟩ := last
          rw [List.append_nil, List.append_nil]
          exact .heard verified
      | _ =>
          simp only [yields_pure_iff, Prod.mk.injEq] at later
          obtain ⟨rfl, rfl, rfl⟩ := later
          rw [List.append_nil]
          exact .failed verified

end VerdictCache

namespace Gateway

variable {gateway kept : Gateway} {endpoint : Router.Endpoint} {cache : VerdictCache} {now : Nat}
  {exchanges : List Router.Exchange}

theorem authorize_verdicts (backend : gateway.backend = .delegated endpoint (.verdicts cache))
    {headers : Http.Headers} {decision : Decision}
    (held : (gateway.authorize now headers).Yields exchanges (decision, kept)) :
    (Presented.ofHeaders? headers = none ∧ exchanges = [] ∧ decision = .denied ∧
        kept = gateway) ∨
      ∃ asked isValid next, Presented.ofHeaders? headers = some asked ∧
        decision = .ofVerdict asked.identity isValid ∧
        kept.backend = .delegated endpoint (.verdicts next) ∧
        cache.Judged endpoint now asked exchanges isValid next := by
  simp only [authorize, backend] at held
  cases presents : Presented.ofHeaders? headers with
  | none =>
      simp only [presents, yields_done_iff, Prod.mk.injEq] at held
      obtain ⟨rfl, rfl, rfl⟩ := held
      exact .inl ⟨rfl, rfl, rfl, rfl⟩
  | some asked =>
      simp only [presents] at held
      obtain ⟨⟨isValid, next⟩, judges, same⟩ := yields_map_iff.mp held
      cases same
      exact .inr ⟨asked, isValid, next, rfl, rfl, rfl, VerdictCache.judged_of_yields judges⟩

theorem login_verdicts (backend : gateway.backend = .delegated endpoint (.verdicts cache))
    {username password : String} {draws : List Draw} {result : Except Fault LoginResult}
    (held : (gateway.login now username password draws).Yields exchanges (result, kept)) :
    ∃ next, kept.backend = .delegated endpoint (.verdicts next) ∧
      cache.LoggedIn endpoint now username password exchanges next := by
  simp only [login, backend] at held
  obtain ⟨⟨reached, next⟩, asked, same⟩ := yields_map_iff.mp held
  cases same
  exact ⟨next, rfl, VerdictCache.loggedIn_of_yields asked⟩

theorem logout_verdicts (backend : gateway.backend = .delegated endpoint (.verdicts cache))
    (token : Option String) : gateway.logout token = gateway := by
  simp only [logout, backend]

theorem passTime_verdicts (backend : gateway.backend = .delegated endpoint (.verdicts cache))
    (earlier later : Nat) : gateway.passTime earlier later = gateway := by
  simp only [passTime, backend]

theorem shutdown_verdicts (backend : gateway.backend = .delegated endpoint (.verdicts cache)) :
    gateway.shutdown = gateway := by
  simp only [shutdown, backend]

theorem reaped_verdicts (backend : gateway.backend = .delegated endpoint (.verdicts cache)) :
    gateway.reaped now = gateway := by
  simp only [reaped, backend]

end Gateway

section Effects

variable {gateway kept : Gateway} {endpoint : Router.Endpoint} {cache : VerdictCache}
  {step : Step}

theorem authorize_verdictEffect
    (backend : gateway.backend = .delegated endpoint (.verdicts cache)) {headers : Http.Headers}
    {decision : Decision}
    (asks : ∀ asked, Presented.ofHeaders? headers = some asked → step.AsksAbout asked)
    (ended : step.ended = step.started + duration step.exchanges)
    (held : (gateway.authorize step.started headers).Yields step.exchanges (decision, kept)) :
    ∃ next, kept.backend = .delegated endpoint (.verdicts next) ∧
      VerdictEffect endpoint cache step next := by
  rcases Gateway.authorize_verdicts backend held with
    ⟨-, silent, -, rfl⟩ | ⟨asked, isValid, next, presents, -, keptBackend, judged⟩
  · exact ⟨cache, backend, .kept (Step.not_hears_of_nil silent)⟩
  · refine ⟨next, keptBackend, ?_⟩
    generalize exchanged : step.exchanges = exchanges at judged
    cases judged with
    | known found => exact .kept (Step.not_hears_of_nil exchanged)
    | heard held =>
        rw [← exchanged] at held ⊢
        rw [← ended]
        exact .heard ⟨asks asked presents, held⟩
    | failed held =>
        rw [← exchanged] at held
        exact .kept (Step.not_hears_of_fault (asks asked presents) held)

theorem login_verdictEffect
    (backend : gateway.backend = .delegated endpoint (.verdicts cache))
    {username password : String} {draws : List Draw} {result : Except Fault LoginResult}
    (asks : step.AsksAbout (.credentials ⟨username, password⟩))
    (ended : step.ended = step.started + duration step.exchanges)
    (held : (gateway.login step.started username password draws).Yields step.exchanges
      (result, kept)) :
    ∃ next, kept.backend = .delegated endpoint (.verdicts next) ∧
      VerdictEffect endpoint cache step next := by
  obtain ⟨next, keptBackend, loggedIn⟩ := Gateway.login_verdicts backend held
  refine ⟨next, keptBackend, ?_⟩
  generalize exchanged : step.exchanges = exchanges at loggedIn
  cases loggedIn with
  | heard held =>
      rw [← exchanged] at held ⊢
      rw [← ended]
      exact .heard ⟨asks, held⟩
  | failed held =>
      rw [← exchanged] at held
      exact .kept (Step.not_hears_of_fault asks held)

theorem answer_verdictEffect
    (backend : gateway.backend = .delegated endpoint (.verdicts cache)) {host : Api.Host}
    {extra : List Api.ExtraPage} {request : Api.Request} {draws : List Draw}
    {response : Api.Response} (acted : step.action = .answer host extra request draws)
    (ended : step.ended = step.started + duration step.exchanges)
    (answered : Api.Answered host extra gateway step.started draws request step.exchanges
      response kept) :
    ∃ next, kept.backend = .delegated endpoint (.verdicts next) ∧
      VerdictEffect endpoint cache step next := by
  generalize exchanged : step.exchanges = exchanges at answered
  cases answered with
  | still quiet noLogout => exact ⟨cache, backend, .kept (Step.not_hears_of_nil exchanged)⟩
  | login posts small read held =>
      rw [← exchanged] at held
      exact login_verdictEffect backend (.loginPage acted posts small read) ended held
  | logout posts =>
      rw [Gateway.logout_verdicts backend]
      exact ⟨cache, backend, .kept (Step.not_hears_of_nil exchanged)⟩
  | guarded found asks held answers =>
      rw [← exchanged] at held
      refine authorize_verdictEffect backend ?_ ended held
      intro asked presents
      exact .guardedPage acted found asks presents

/-- Every action has one of these effects on the verdicts. -/
theorem verdictEffect_of_yields {service : Service}
    (backend : service.gateway.backend = .delegated endpoint (.verdicts cache))
    (started : step.started = service.now)
    (ended : step.ended = service.now + duration step.exchanges + Service.waitOf step.action)
    (held : (service.dialogue step.action).Yields step.exchanges (step.result, kept)) :
    ∃ next, kept.backend = .delegated endpoint (.verdicts next) ∧
      VerdictEffect endpoint cache step next := by
  rw [← started] at ended
  cases acted : step.action with
  | authorize headers =>
      rw [acted] at held ended
      obtain ⟨decision, decides, -⟩ := Service.authorize_yields_iff.mp held
      rw [← started] at decides
      refine authorize_verdictEffect backend ?_ ended decides
      intro asked presents
      exact .authorize acted presents
  | check headers =>
      rw [acted] at held
      obtain ⟨silent, -, rfl⟩ := Service.check_yields_iff.mp held
      exact ⟨cache, backend, .kept (Step.not_hears_of_nil silent)⟩
  | login username password draws =>
      rw [acted] at held ended
      obtain ⟨result, asked, -⟩ := Service.login_yields_iff.mp held
      rw [← started] at asked
      exact login_verdictEffect backend (.login acted) ended asked
  | logout token =>
      rw [acted] at held
      obtain ⟨silent, -, rfl⟩ := Service.logout_yields_iff.mp held
      rw [Gateway.logout_verdicts backend]
      exact ⟨cache, backend, .kept (Step.not_hears_of_nil silent)⟩
  | answer host extra request draws =>
      rw [acted] at held ended
      obtain ⟨response, asked, -⟩ := Service.answer_yields_iff.mp held
      have answered := Api.answered_of_yields asked
      rw [← started] at answered
      exact answer_verdictEffect backend acted ended answered
  | wait milliseconds =>
      rw [acted] at held
      obtain ⟨silent, -, rfl⟩ := Service.wait_yields_iff.mp held
      rw [Gateway.passTime_verdicts backend]
      exact ⟨cache, backend, .kept (Step.not_hears_of_nil silent)⟩
  | shutdown =>
      rw [acted] at held
      obtain ⟨silent, -, rfl⟩ := Service.shutdown_yields_iff.mp held
      rw [Gateway.shutdown_verdicts backend]
      exact ⟨cache, backend, .kept (Step.not_hears_of_nil silent)⟩

theorem Service.act_verdictEffect (router : Router.Behavior) {service : Service}
    (action : Action) (backend : service.gateway.backend = .delegated endpoint (.verdicts cache)) :
    ∃ next, (service.act router action).2.gateway.backend =
        .delegated endpoint (.verdicts next) ∧
      VerdictEffect endpoint cache (service.act router action).1 next :=
  verdictEffect_of_yields backend rfl (act_ended router service action)
    (act_yields router service action)

end Effects

end RouterGate
