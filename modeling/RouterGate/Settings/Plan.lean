import RouterGate.Log.Event
import RouterGate.Settings.Basic
import RouterGate.Text.Span
/-!
How requests will be authorized, as the settings decide it.
-/
namespace RouterGate

inductive AuthMode where
  | unguarded
  | fixed
  | delegated
  deriving DecidableEq, Repr

namespace AuthMode

def shown : AuthMode → String
  | .unguarded => "none"
  | .fixed => "local"
  | .delegated => "ndm"

def word : AuthMode → String
  | .unguarded => "none"
  | .fixed => "local"
  | .delegated => "router_delegated"

def inspected : AuthMode → String
  | .unguarded => "None"
  | .fixed => "Local"
  | .delegated => "RouterDelegated"

def ofWord? (text : String) : Option AuthMode :=
  [unguarded, fixed, delegated].find? fun mode => mode.word == text

end AuthMode

/-- How trust is kept between requests when the router vouches. -/
inductive Delegation where
  /-- A login is vouched for once and gives a session of its own. -/
  | session
  /-- What each request presents is shown to the router, whose verdict is kept for a while. -/
  | forward
  deriving DecidableEq, Repr

namespace Delegation

def word : Delegation → String
  | .session => "session"
  | .forward => "forward"

def inspected : Delegation → String
  | .session => "Session"
  | .forward => "Forward"

def ofWord? (text : String) : Option Delegation :=
  [session, forward].find? fun delegation => delegation.word == text

end Delegation

/-- All that authorization needs to know; times are in milliseconds. -/
structure AuthPlan where
  mode : AuthMode
  username : String
  password : String
  rciUrl : String
  delegation : Delegation
  sessionTtl : Nat
  cacheTtl : Nat
  reapInterval : Nat
  routerTimeout : Nat
  deriving DecidableEq, Repr

def AuthPlan.inspected (plan : AuthPlan) : String :=
  "AuthConfiguration \x7b mode: " ++ plan.mode.inspected ++
    ", username: " ++ Text.Quoted.encode plan.username ++
    ", password: \"<redacted>\", rci_url: " ++ Text.Quoted.encode plan.rciUrl ++
    ", delegation: " ++ plan.delegation.inspected ++
    ", session_ttl: " ++ Text.Span.text plan.sessionTtl ++
    ", cache_ttl: " ++ Text.Span.text plan.cacheTtl ++
    ", reap_interval: " ++ Text.Span.text plan.reapInterval ++
    ", router_timeout: " ++ Text.Span.text plan.routerTimeout ++ " \x7d"

namespace Settings

def delegationChoice (settings : Settings) : Except Fault Delegation :=
  let word := Text.lower settings.delegation
  if word = "" ∨ word = "session" then .ok .session
  else if word = "forward" then .ok .forward
  else .error (.config (.unknownDelegation word))

/-- The mode and the reason that is reported for it. A word that is not known leaves the choice
to the password: a fixed one if it is set, else the router. -/
def modeChoice (settings : Settings) : AuthMode × String :=
  let word := Text.lower settings.authMode
  if word = "ndm" then (.delegated, "Auth mode: NDM (Keenetic router accounts)")
  else if word = "local" then
    if settings.password = "" then
      (.unguarded, "Auth mode: none (AUTH_MODE=local but PASSWORD is empty)")
    else (.fixed, "Auth mode: local (static username/password)")
  else if word = "none" ∨ word = "off" then (.unguarded, "Auth mode: none (disabled)")
  else if settings.password = "" then
    (.delegated, "Auth mode: NDM (auto, no PASSWORD configured)")
  else (.fixed, "Auth mode: local (auto, PASSWORD is set)")

def modeEvent (settings : Settings) : Log.Event :=
  ⟨.info, .config, settings.modeChoice.2, []⟩

/-- The plan that the settings make. Waits of no time at all become one second. -/
def plan (settings : Settings) : Except Fault AuthPlan :=
  settings.delegationChoice.map fun delegation =>
    { mode := settings.modeChoice.1
      username := settings.username
      password := settings.password
      rciUrl := Text.dropTrailing '/' settings.rciUrl
      delegation := delegation
      sessionTtl := settings.sessionTtlSecs * 1000
      cacheTtl := settings.cacheTtlSecs * 1000
      reapInterval := max settings.reapIntervalSecs 1 * 1000
      routerTimeout := max settings.routerTimeoutSecs 1 * 1000 }

end Settings

end RouterGate
