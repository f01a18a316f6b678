import RouterGate.Router.Interface
/-!
Finding the address at which the router takes logins. It is the address of one of the router's
own interfaces; when none of them tells one, the usual address of a router is a guess.
-/
namespace RouterGate.Router

def firstInterface : String := "Bridge0"

def furtherInterfaces : List String := ["Bridge0", "Home", "ISP"]

def usualAddress : String := "http://192.168.1.1"

inductive Finding where
  | first
  | further (name : String)
  | guess
  deriving DecidableEq, Repr

def Finding.text : Finding → String
  | .first => "auto-detected from " ++ firstInterface
  | .further name => "from interface " ++ name
  | .guess => "hardcoded fallback"

structure Target where
  baseUrl : String
  finding : Finding
  deriving DecidableEq, Repr

namespace Target

/-- Nothing was found: the address is a guess. -/
def isDegraded (target : Target) : Bool :=
  target.finding = .guess

def event (target : Target) : Log.Event :=
  let fields := [("target_url", Log.Field.shown target.baseUrl),
    ("source", .shown target.finding.text)]
  if target.isDegraded then
    ⟨.warn, .discovery, "All interface detection failed, router logins may fail", fields⟩
  else ⟨.info, .discovery, "NDM auth URL resolved", fields⟩

end Target

namespace Management

def addressOf? (management : Management) (name : String) : Dialogue (Option String) := do
  match ← management.showInterface name with
  | .ok interface =>
      match interface.ipv4? with
      | some address => return some address
      | none =>
          Dialogue.say ⟨.debug, .discovery, "Interface has no IPv4 address",
            [("interface", .quoted name)]⟩
          return none
  | .error fault =>
      Dialogue.say ⟨.debug, .discovery, "Interface probe failed: " ++ fault.message,
        [("interface", .quoted name)]⟩
      return none

def searchAmong (management : Management) : List String → Dialogue Target
  | [] => .done ⟨usualAddress, .guess⟩
  | name :: rest => do
      match ← management.addressOf? name with
      | some address => return ⟨"http://" ++ address, .further name⟩
      | none => management.searchAmong rest

def search (management : Management) : Dialogue Target := do
  match ← management.addressOf? firstInterface with
  | some address => return ⟨"http://" ++ address, .first⟩
  | none => management.searchAmong furtherInterfaces

def discover (management : Management) : Dialogue Target := do
  let target ← management.search
  Dialogue.say target.event
  return target

end Management

end RouterGate.Router
