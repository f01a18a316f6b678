import RouterGate.Api.Answer
/-!
A gateway in time. Its clock moves while it waits, and while the router is asked; what was said
to the router before may decide what the router says next.
-/
namespace RouterGate

structure Service where
  gateway : Gateway
  /-- Milliseconds since some start. -/
  now : Nat
  past : List Router.Exchange

/-- What is done with a service. Logins bring what the source of random tokens gives. -/
inductive Action where
  | authorize (headers : Http.Headers)
  | check (headers : Http.Headers)
  | login (username password : String) (draws : List Draw)
  | logout (token : Option String)
  | answer (host : Api.Host) (extra : List Api.ExtraPage) (request : Api.Request)
      (draws : List Draw)
  | wait (milliseconds : Nat)
  | shutdown

inductive Result where
  | decided (decision : Decision)
  | checked (status : CheckStatus)
  | loggedIn (result : Except Fault LoginResult)
  | answered (response : Api.Response)
  | done

/-- A step of a run: the action with its result, what was exchanged with the router in it, and
what the operator was told. -/
structure Step where
  action : Action
  result : Result
  started : Nat
  ended : Nat
  exchanges : List Router.Exchange
  events : List Log.Event

namespace Service

def dialogue (service : Service) : Action → Router.Dialogue (Result × Gateway)
  | .authorize headers => do
      let (decision, kept) ← service.gateway.authorize service.now headers
      return (.decided decision, kept)
  | .check headers =>
      .done (.checked (service.gateway.check service.now headers), service.gateway)
  | .login username password draws => do
      let (result, kept) ← service.gateway.login service.now username password draws
      return (.loggedIn result, kept)
  | .logout token => do
      (service.gateway.logoutNotes token).forM Router.Dialogue.say
      return (.done, service.gateway.logout token)
  | .answer host extra request draws => do
      let (response, kept) ← Api.respond host extra service.gateway service.now draws request
      return (.answered response, kept)
  | .wait milliseconds =>
      .done (.done, service.gateway.passTime service.now (service.now + milliseconds))
  | .shutdown => do
      service.gateway.shutdownNotes.forM Router.Dialogue.say
      return (.done, service.gateway.shutdown)

def waitOf : Action → Nat
  | .wait milliseconds => milliseconds
  | _ => 0

def act (router : Router.Behavior) (service : Service) (action : Action) : Step × Service :=
  let outcome := (service.dialogue action).run router service.past
  let later := service.now + outcome.elapsed + waitOf action
  (⟨action, outcome.value.1, service.now, later, outcome.exchanges, outcome.events⟩,
    ⟨outcome.value.2, later, service.past ++ outcome.exchanges⟩)

/-- The clock never goes back. -/
theorem now_le_act (router : Router.Behavior) (service : Service) (action : Action) :
    service.now ≤ (service.act router action).2.now := by
  simp only [act]
  omega

end Service

end RouterGate
