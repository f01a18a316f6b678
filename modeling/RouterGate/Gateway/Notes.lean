import RouterGate.Log.Event
import RouterGate.Router.Login
/-!
What the operator is told about the gateway's work.
-/
namespace RouterGate.Notes

def sessionCreated (owner : String) : Log.Event :=
  ⟨.debug, .sessions, "Session created", [("owner", .shown owner)]⟩

def sessionDestroyed : Log.Event :=
  ⟨.debug, .sessions, "Session destroyed", []⟩

def reaperStopped : Log.Event :=
  ⟨.debug, .sessions, "Session reaper stopped", []⟩

def sweptVerdicts (count : Nat) : Log.Event :=
  ⟨.trace, .verdicts, "Swept expired verification entries", [("swept", .number count)]⟩

def verdictKnown (isValid : Bool) : Log.Event :=
  ⟨.debug, .gateway, "Verification cache hit", [("valid", .flag isValid)]⟩

def verdictMissing : Log.Event :=
  ⟨.warn, .gateway, "Denying request, router verification unavailable", []⟩

def loginEvent (message : String) (login : Router.Login) : Log.Event :=
  ⟨.info, .gateway, message,
    [("username", .quoted login.username), ("method", .shown login.method.name)]⟩

def loginSucceeded (login : Router.Login) : Log.Event :=
  loginEvent "Router login succeeded" login

def loginVerified (login : Router.Login) : Log.Event :=
  loginEvent "Router login verified" login

end RouterGate.Notes
