import RouterGate.Proofs.Router.SameAnswers
import RouterGate.Proofs.Session.Standing
/-!
What a password leaves behind. Whatever two passwords are, logins with them do the same as long as
the router answers the same: neither the sessions nor the fault nor the log tell them apart.
-/
namespace RouterGate

open Router.Dialogue

theorem Router.Dialogue.duration_congr {left right : List Router.Exchange}
    (same : left.map (·.reply) = right.map (·.reply)) : duration left = duration right := by
  have of_replies (exchanges : List Router.Exchange) : duration exchanges =
      (exchanges.map (·.reply)).foldr (fun reply later => reply.elapsed + later) 0 := by
    rw [duration, List.foldr_map]
  rw [of_replies, of_replies, same]

namespace SessionStore

/-- Ends of two logins that differ in their tokens at most. -/
inductive UpToToken : Except Fault LoginResult × SessionStore →
    Except Fault LoginResult × SessionStore → Prop
  | failed (fault : Fault) (store : SessionStore) :
      UpToToken (.error fault, store) (.error fault, store)
  | granted (username token token' : String) (store : SessionStore) (moment : Nat) :
      UpToToken (.ok ⟨username, some token⟩, store.add moment username token)
        (.ok ⟨username, some token'⟩, store.add moment username token')

/-- What the operator is told of a login that the router judged. -/
def grantNotes (store : SessionStore) (moment : Nat) (draws : List Draw) :
    Except Fault Router.Login → List Log.Event
  | .error _ => []
  | .ok confirmed =>
      match store.create moment confirmed.username draws with
      | .error _ => []
      | .ok _ => [Notes.sessionCreated confirmed.username, Notes.loginSucceeded confirmed]

section Granting

variable {store : SessionStore} {draws draws' : List Draw} {token token' : String}
  (fresh : store.freshToken draws = .ok token) (fresh' : store.freshToken draws' = .ok token')

include fresh fresh'

theorem upToToken_granting (moment : Nat) (judged : Except Fault Router.Login) :
    UpToToken (store.granting moment draws judged) (store.granting moment draws' judged) := by
  cases judged with
  | error fault => exact .failed fault store
  | ok confirmed =>
      simp only [granting, create, fresh, fresh']
      exact .granted confirmed.username token token' store moment

theorem grantNotes_eq (moment : Nat) (judged : Except Fault Router.Login) :
    store.grantNotes moment draws judged = store.grantNotes moment draws' judged := by
  cases judged with
  | error fault => rfl
  | ok confirmed => simp only [grantNotes, create, fresh, fresh']

end Granting

theorem run_login_events (store : SessionStore) (endpoint : Router.Endpoint) (now : Nat)
    (username password : String) (draws : List Draw) (router : Router.Behavior)
    (past : List Router.Exchange) :
    let confirmed := (endpoint.login username password).run router past
    let moment := now + duration confirmed.exchanges
    ((store.login endpoint now username password draws).run router past).events =
      confirmed.events ++ (store.passTime now moment).grantNotes moment draws confirmed.value := by
  simp only [login, run_seq, run_timed]
  generalize (endpoint.login username password).run router past = confirmed
  have took : confirmed.elapsed = duration confirmed.exchanges := rfl
  rw [took]
  cases came : confirmed.value with
  | error fault => rfl
  | ok login =>
      simp only [grantNotes]
      cases (store.passTime now (now + duration confirmed.exchanges)).create
          (now + duration confirmed.exchanges) login.username draws with
      | error fault => rfl
      | ok made => rfl

end SessionStore

/-- What a login has come to by some moment, by what the router made of it and what was told of
that. -/
structure Service.EndsLogin (service : Service) (endpoint : Router.Endpoint) (store : SessionStore)
    (draws : List Draw) (moment : Nat) (judged : Except Fault Router.Login)
    (told : List Log.Event) (done : Step × Service) : Prop where
  ended : done.1.ended = moment
  result : done.1.result =
    .loggedIn ((store.passTime service.now moment).granting moment draws judged).1
  kept : done.2.gateway = ⟨.delegated endpoint (.sessions
    ((store.passTime service.now moment).granting moment draws judged).2),
    service.gateway.isDegraded⟩
  events : done.1.events =
    told ++ (store.passTime service.now moment).grantNotes moment draws judged

namespace Service

variable {service : Service} {endpoint : Router.Endpoint} {store : SessionStore}
  {draws draws' : List Draw} {moment : Nat} {judged : Except Fault Router.Login}
  {told : List Log.Event} {done done' : Step × Service}

theorem act_login_sessions
    (backend : service.gateway.backend = .delegated endpoint (.sessions store))
    (router : Router.Behavior) (username password : String) (draws : List Draw) :
    let confirmed := (endpoint.login username password).run router service.past
    let done := service.act router (.login username password draws)
    done.1.exchanges = confirmed.exchanges ∧
      service.EndsLogin endpoint store draws (service.now + duration confirmed.exchanges)
        confirmed.value confirmed.events done := by
  obtain ⟨value, exchanges⟩ := store.run_login endpoint service.now username password draws router
    service.past
  have events := store.run_login_events endpoint service.now username password draws router
    service.past
  have took (outcome : Router.Outcome (Result × Gateway)) :
      outcome.elapsed = duration outcome.exchanges := rfl
  refine ⟨?_, ?_, ?_, ?_, ?_⟩ <;>
    simp only [act, dialogue, Gateway.login, backend, took, run_seq, run_pure, List.append_nil,
      waitOf, Nat.add_zero, value, exchanges, events]

theorem EndsLogin.unique
    (ends : service.EndsLogin endpoint store draws moment judged told done)
    (ends' : service.EndsLogin endpoint store draws moment judged told done') :
    done.1.result = done'.1.result ∧ done.1.events = done'.1.events ∧
      done.2.gateway = done'.2.gateway :=
  ⟨ends.result.trans ends'.result.symm, ends.events.trans ends'.events.symm,
    ends.kept.trans ends'.kept.symm⟩

theorem EndsLogin.upToToken
    (ends : service.EndsLogin endpoint store draws moment judged told done)
    (ends' : service.EndsLogin endpoint store draws' moment judged told done')
    {token token' : String}
    (fresh : (store.passTime service.now moment).freshToken draws = .ok token)
    (fresh' : (store.passTime service.now moment).freshToken draws' = .ok token') :
    done.1.events = done'.1.events ∧ ∃ left right, SessionStore.UpToToken left right ∧
      done.1.result = .loggedIn left.1 ∧
      done.2.gateway =
        ⟨.delegated endpoint (.sessions left.2), service.gateway.isDegraded⟩ ∧
      done'.1.result = .loggedIn right.1 ∧
      done'.2.gateway =
        ⟨.delegated endpoint (.sessions right.2), service.gateway.isDegraded⟩ := by
  constructor
  · rw [ends.events, ends'.events, SessionStore.grantNotes_eq fresh fresh']
  · exact ⟨_, _, SessionStore.upToToken_granting fresh fresh' moment judged, ends.result,
      ends.kept, ends'.result, ends'.kept⟩

end Service

/-- Two logins with the same name differ in the proof that is posted, if there is one, and in the
token that is drawn. Whatever else they exchange, come to and leave behind is the same, as long as
the router answers the same; and the proof is the same too if the passwords have one hash. -/
theorem logins_differ_in_proof (endpoint : Router.Endpoint) (store : SessionStore)
    (isDegraded : Bool) (now : Nat) (past : List Router.Exchange)
    (router router' : Router.Behavior) (username first second : String)
    (draws draws' : List Draw) :
    let service : Service := ⟨⟨.delegated endpoint (.sessions store), isDegraded⟩, now, past⟩
    let left := service.act router (.login username first draws)
    let right := service.act router' (.login username second draws')
    let later := store.passTime now left.1.ended
    Router.SameAnswers left.1.exchanges right.1.exchanges →
      Router.AlikeButProof username first second left.1.exchanges right.1.exchanges ∧
        left.1.exchanges.map (·.request.fields) = right.1.exchanges.map (·.request.fields) ∧
        left.1.ended = right.1.ended ∧
        (draws = draws' → left.1.result = right.1.result ∧ left.1.events = right.1.events ∧
          left.2.gateway = right.2.gateway) ∧
        (∀ token token', later.freshToken draws = .ok token →
          later.freshToken draws' = .ok token' → left.1.events = right.1.events ∧
            ∃ ends ends', SessionStore.UpToToken ends ends' ∧
              left.1.result = .loggedIn ends.1 ∧
              left.2.gateway = ⟨.delegated endpoint (.sessions ends.2), isDegraded⟩ ∧
              right.1.result = .loggedIn ends'.1 ∧
              right.2.gateway = ⟨.delegated endpoint (.sessions ends'.2), isDegraded⟩) ∧
        ((∀ realm, Router.OffersRealm left.1.exchanges realm →
            Router.credentialHash username realm first =
              Router.credentialHash username realm second) →
          left.1.exchanges = right.1.exchanges) := by
  intro service left right later same
  have backend : service.gateway.backend = .delegated endpoint (.sessions store) := rfl
  obtain ⟨exchanges, ends⟩ := Service.act_login_sessions backend router username first draws
  obtain ⟨exchanges', ends'⟩ := Service.act_login_sessions backend router' username second draws'
  change left.1.exchanges = _ at exchanges
  change right.1.exchanges = _ at exchanges'
  rw [exchanges, exchanges'] at same ⊢
  obtain ⟨sameValue, sameEvents, alike⟩ := Router.login_of_sameAnswers same
  rw [← sameValue, ← sameEvents, ← duration_congr alike.replies_eq] at ends'
  refine ⟨alike, alike.fields_eq, ends.ended.trans ends'.ended.symm, ?_, ?_,
    alike.eq_of_credentialHash⟩
  · rintro rfl
    exact ends.unique ends'
  · intro token token' fresh fresh'
    have moment := congrArg (store.passTime now) ends.ended
    change later = _ at moment
    rw [moment] at fresh fresh'
    exact ends.upToToken ends' fresh fresh'

/-- A router that takes any proof: what is left of two logins is two tokens. -/
theorem logins_differ_in_proof_taken :
    let challenge : Http.Headers :=
      [.ofText "x-ndm-realm" "router", .ofText "x-ndm-challenge" "ABC"]
    let router : Router.Behavior := fun _ request =>
      if request.method = .post then ⟨.answered ⟨200, [], .whole []⟩, 5⟩
      else ⟨.answered ⟨401, challenge, .whole []⟩, 5⟩
    let endpoint : Router.Endpoint := ⟨"http://router", .tableless, 5000⟩
    let store : SessionStore := .start 60000 0 0
    let service : Service := ⟨⟨.delegated endpoint (.sessions store), false⟩, 0, []⟩
    let left := service.act router (.login "alice" "secret" [.token "a"])
    let right := service.act router (.login "alice" "other" [.token "b"])
    Router.SameAnswers left.1.exchanges right.1.exchanges ∧
      left.1.exchanges.length = 2 ∧ left.1.events = right.1.events ∧
      left.2.gateway = ⟨.delegated endpoint (.sessions (store.add 10 "alice" "a")), false⟩ ∧
      right.2.gateway = ⟨.delegated endpoint (.sessions (store.add 10 "alice" "b")), false⟩ := by
  intro challenge router endpoint store service left right
  have replies : left.1.exchanges.map (·.reply) = right.1.exchanges.map (·.reply) := by
    decide +kernel
  have same := Router.SameAnswers.of_replies replies
  obtain ⟨-, -, -, -, tokens, -⟩ := logins_differ_in_proof endpoint store false 0 [] router router
    "alice" "secret" "other" [.token "a"] [.token "b"] same
  obtain ⟨events, -⟩ := tokens "a" "b" rfl rfl
  have backend : service.gateway.backend = .delegated endpoint (.sessions store) := rfl
  have kept := (Service.act_login_sessions backend router "alice" "secret" [.token "a"]).2.kept
  have kept' := (Service.act_login_sessions backend router "alice" "other" [.token "b"]).2.kept
  have holding {held stored : SessionStore} (same : held = stored) :
      (⟨.delegated endpoint (.sessions held), false⟩ : Gateway) =
        ⟨.delegated endpoint (.sessions stored), false⟩ := by rw [same]
  exact ⟨same, by decide +kernel, events, kept.trans (holding (by decide +kernel)),
    kept'.trans (holding (by decide +kernel))⟩

end RouterGate
