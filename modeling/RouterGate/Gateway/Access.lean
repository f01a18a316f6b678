import RouterGate.Fault.Report
import RouterGate.Gateway.Basic
import RouterGate.Gateway.Identity
import RouterGate.Http.Cookie
import RouterGate.Verdict.Key
/-!
Deciding about requests. What a request presents is compared with the settings, looked up among
the sessions, or shown to the router unless its verdict is still known.
-/
namespace RouterGate

/-- What a request presents for the router to judge. -/
inductive Presented where
  | credentials (given : Credentials)
  | cookies (given : List Http.Cookie)
  deriving DecidableEq, Repr

namespace Presented

def routerCookies (headers : Http.Headers) : List Http.Cookie :=
  (Http.Cookie.presented headers).filter (·.name != Http.Cookie.sessionName)

/-- Credentials come before cookies. -/
def ofHeaders? (headers : Http.Headers) : Option Presented :=
  match Credentials.presented? headers with
  | some given => some (.credentials given)
  | none =>
      match routerCookies headers with
      | [] => none
      | first :: rest => some (.cookies (first :: rest))

def key : Presented → String
  | .credentials given => Verdict.credentialKey given.username given.password
  | .cookies given => Verdict.cookieKey given

def identity : Presented → Identity
  | .credentials given => .user given.username
  | .cookies _ => .routerSession

def verify (endpoint : Router.Endpoint) : Presented → Router.Dialogue (Except Fault Bool)
  | .credentials given => endpoint.verify given.username given.password
  | .cookies given => endpoint.verifyCookies (Http.Cookie.headerText given)

end Presented

namespace VerdictCache

def record (cache : VerdictCache) (now : Nat) (key : String) (isValid : Bool) :
    Router.Dialogue VerdictCache :=
  if cache.sweptCount now = 0 then .done (cache.put now key isValid)
  else .note (Notes.sweptVerdicts (cache.sweptCount now)) (.done (cache.put now key isValid))

/-- The verdict on what is presented: a known one, or else the router's, which is recorded. A
fault is no verdict; it denies the request and leaves no trace. -/
def judge (cache : VerdictCache) (endpoint : Router.Endpoint) (now : Nat)
    (presented : Presented) : Router.Dialogue (Bool × VerdictCache) := do
  match cache.get? now presented.key with
  | some isValid =>
      Router.Dialogue.say (Notes.verdictKnown isValid)
      return (isValid, cache)
  | none =>
      match ← (presented.verify endpoint).timed with
      | (.ok isValid, took) =>
          let recorded ← cache.record (now + took) presented.key isValid
          return (isValid, recorded)
      | (.error fault, _) =>
          Router.Dialogue.say (fault.event "forward_verification")
          Router.Dialogue.say Notes.verdictMissing
          return (false, cache)

end VerdictCache

namespace SessionStore

def presented? (store : SessionStore) (now : Nat) (headers : Http.Headers) : Option Session :=
  (Http.Cookie.valueOf? Http.Cookie.sessionName (Http.Cookie.presented headers)).bind
    (store.lookup? now)

def decide (store : SessionStore) (now : Nat) (headers : Http.Headers) : Decision :=
  match store.presented? now headers with
  | some session => .allowed (.user session.owner)
  | none => .denied

end SessionStore

namespace Credentials

def arePresented (expected : Credentials) (headers : Http.Headers) : Bool :=
  match presented? headers with
  | some given => given.agrees expected
  | none => false

end Credentials

namespace Gateway

def authorize (gateway : Gateway) (now : Nat) (headers : Http.Headers) :
    Router.Dialogue (Decision × Gateway) :=
  match gateway.backend with
  | .unguarded => .done (.allowed .anonymous, gateway)
  | .fixed expected =>
      .done (.ofVerdict (.user expected.username) (expected.arePresented headers), gateway)
  | .delegated _ (.sessions store) => .done (store.decide now headers, gateway)
  | .delegated endpoint (.verdicts cache) =>
      match Presented.ofHeaders? headers with
      | none => .done (.denied, gateway)
      | some presented => do
          let (isValid, kept) ← cache.judge endpoint now presented
          return (.ofVerdict presented.identity isValid,
            { gateway with backend := .delegated endpoint (.verdicts kept) })

/-- Whether a request is known to be authorized, without asking the router. -/
def isAuthenticated (gateway : Gateway) (now : Nat) (headers : Http.Headers) : Bool :=
  match gateway.backend with
  | .unguarded => true
  | .fixed expected => expected.arePresented headers
  | .delegated _ (.sessions store) => (store.presented? now headers).isSome
  | .delegated _ (.verdicts cache) =>
      match Presented.ofHeaders? headers with
      | none => false
      | some presented => cache.get? now presented.key == some true

end Gateway

structure CheckStatus where
  isAuthenticated : Bool
  mode : AuthMode
  deriving DecidableEq, Repr

def CheckStatus.json (status : CheckStatus) : Json :=
  .record [("authenticated", .bool status.isAuthenticated), ("auth_mode", .text status.mode.shown)]

def Gateway.check (gateway : Gateway) (now : Nat) (headers : Http.Headers) : CheckStatus :=
  ⟨gateway.isAuthenticated now headers, gateway.mode⟩

end RouterGate
