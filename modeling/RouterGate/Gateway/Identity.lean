import RouterGate.Json.Value
/-!
Whom an authorized request acts for, and what is decided about a request.
-/
namespace RouterGate

inductive Identity where
  | anonymous
  | user (name : String)
  /-- A holder of cookies that the router takes for a session of its own. -/
  | routerSession
  deriving DecidableEq, Repr

namespace Identity

def username? : Identity → Option String
  | .user name => some name
  | _ => none

def kind : Identity → String
  | .anonymous => "anonymous"
  | .user _ => "user"
  | .routerSession => "router_session"

def json : Identity → Json
  | .user name => .record [("kind", .text "user"), ("name", .text name)]
  | identity => .record [("kind", .text identity.kind)]

end Identity

inductive Decision where
  | allowed (identity : Identity)
  | denied
  deriving DecidableEq, Repr

namespace Decision

def identity? : Decision → Option Identity
  | .allowed identity => some identity
  | .denied => none

def isAllowed (decision : Decision) : Bool :=
  decision.identity?.isSome

def ofVerdict (identity : Identity) (isValid : Bool) : Decision :=
  if isValid then .allowed identity else .denied

end Decision

end RouterGate
