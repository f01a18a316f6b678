import RouterGate.Gateway.Notes
import RouterGate.Http.Credentials
import RouterGate.Router.Discovery
import RouterGate.Router.Login
import RouterGate.Session.Store
import RouterGate.Settings.Plan
import RouterGate.Verdict.Cache
/-!
The gateway: whom it asks about requests, and the trust that it keeps meanwhile.
-/
namespace RouterGate

/-- What a gateway remembers when the router vouches for users. -/
inductive Trust where
  | sessions (store : SessionStore)
  | verdicts (cache : VerdictCache)
  deriving DecidableEq, Repr

inductive Backend where
  | unguarded
  | fixed (expected : Credentials)
  | delegated (endpoint : Router.Endpoint) (trust : Trust)

structure Gateway where
  backend : Backend
  /-- The router's address is a guess. -/
  isDegraded : Bool

def Trust.delegation : Trust → Delegation
  | .sessions _ => .session
  | .verdicts _ => .forward

def Trust.start (delegation : Delegation) (sessionTtl cacheTtl reapEvery now : Nat) : Trust :=
  match delegation with
  | .session => .sessions (.start sessionTtl reapEvery now)
  | .forward => .verdicts (.start cacheTtl)

namespace Gateway

def unguarded : Gateway :=
  ⟨.unguarded, false⟩

def fixed (username password : String) : Gateway :=
  ⟨.fixed ⟨username, password⟩, false⟩

def delegated (endpoint : Router.Endpoint) (trust : Trust) : Gateway :=
  ⟨.delegated endpoint trust, false⟩

def mode (gateway : Gateway) : AuthMode :=
  match gateway.backend with
  | .unguarded => .unguarded
  | .fixed _ => .fixed
  | .delegated _ _ => .delegated

def delegation? (gateway : Gateway) : Option Delegation :=
  match gateway.backend with
  | .delegated _ trust => some trust.delegation
  | _ => none

def sessionTtl? (gateway : Gateway) : Option Nat :=
  match gateway.backend with
  | .delegated _ (.sessions store) => some store.ttl
  | _ => none

def routerUrl? (gateway : Gateway) : Option String :=
  match gateway.backend with
  | .delegated endpoint _ => some endpoint.baseUrl
  | _ => none

def delegationText : Option Delegation → String
  | none => "None"
  | some delegation => "Some(" ++ delegation.inspected ++ ")"

def readyEvent (gateway : Gateway) : Log.Event :=
  ⟨.info, .gateway, "Auth gateway ready",
    [("mode", .shown gateway.mode.shown),
      ("delegation", .shown (delegationText gateway.delegation?)),
      ("degraded", .flag gateway.isDegraded)]⟩

def ofTarget (hosts : Url.HostMapping) (plan : AuthPlan) (target : Router.Target) (now : Nat) :
    Gateway :=
  ⟨.delegated (.ofAddress target.baseUrl ⟨hosts, plan.routerTimeout⟩)
      (.start plan.delegation plan.sessionTtl plan.cacheTtl plan.reapInterval now),
    target.isDegraded⟩

def prepare (hosts : Url.HostMapping) (plan : AuthPlan) (now : Nat) :
    Router.Dialogue Gateway :=
  match plan.mode with
  | .unguarded => .done unguarded
  | .fixed => .done (fixed plan.username plan.password)
  | .delegated => do
      let (target, took) ←
        (Router.Management.ofAddress plan.rciUrl ⟨hosts, plan.routerTimeout⟩).discover.timed
      return ofTarget hosts plan target (now + took)

def ofPlan (hosts : Url.HostMapping) (plan : AuthPlan) (now : Nat) : Router.Dialogue Gateway := do
  let gateway ← prepare hosts plan now
  Router.Dialogue.say gateway.readyEvent
  return gateway

def passTime (gateway : Gateway) (earlier later : Nat) : Gateway :=
  match gateway.backend with
  | .delegated endpoint (.sessions store) =>
      { gateway with
        backend := .delegated endpoint (.sessions (store.passTime earlier later)) }
  | _ => gateway

end Gateway

end RouterGate
