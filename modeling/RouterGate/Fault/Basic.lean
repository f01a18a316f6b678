import RouterGate.Http.Status
import RouterGate.Text.Quoted
import RouterGate.Url.Host
/-!
What can go wrong, by cause, and the text that tells an operator.
-/
namespace RouterGate

inductive Violation where
  | noChallenge (realm nonce : Bool)
  | unexpectedStatus (status : Nat) (url : String)
  | badLocation (location : String) (defect : Url.Defect)
  | interfaceStatus (status : Nat) (name : String)
  | reported (text : String)
  deriving DecidableEq, Repr

inductive Outage where
  | timedOut (url : String)
  | lost (url reason : String)
  | queryTimedOut (reason : String)
  | queryRefused (reason : String)
  | reported (text : String)
  deriving DecidableEq, Repr

inductive Breakdown where
  | badAuthUrl (url : String) (defect : Url.Defect)
  | unbuildable (reason : String)
  | randomSource (reason : String)
  | reported (text : String)
  deriving DecidableEq, Repr

inductive KeyDefect where
  | noName
  | strayCharacter
  | noDigit
  | indexTooLarge
  deriving DecidableEq, Repr

inductive Misconfiguration where
  | wrongType (found expected key : String)
  | badKey (defect : KeyDefect)
  | badListenAddress (text : String)
  | unknownDelegation (text : String)
  | notDelegated
  | cannotBind (address reason : String)
  | reported (text : String)
  deriving DecidableEq, Repr

inductive SystemFailure where
  | os (code : Nat) (kind text : String)
  | reported (text : String)
  deriving DecidableEq, Repr

inductive Fault where
  | protocol (cause : Violation)
  | unreachable (cause : Outage)
  | invalidCredentials
  | internal (cause : Breakdown)
  | config (cause : Misconfiguration)
  | invalidInput (text : String)
  | http (reason : String)
  | json (reason : String)
  | io (cause : SystemFailure)
  | generic (text : String)
  deriving DecidableEq, Repr

def Violation.message : Violation → String
  | .noChallenge realm nonce =>
      "router did not return an auth challenge (realm present: " ++ toString realm ++
        ", challenge present: " ++ toString nonce ++ ")"
  | .unexpectedStatus status url =>
      "unexpected status " ++ Http.statusText status ++ " from " ++ url
  | .badLocation location defect =>
      "invalid redirect location " ++ Text.Quoted.encode location ++ ": " ++ defect.message
  | .interfaceStatus status name =>
      "RCI returned " ++ Http.statusText status ++ " for interface " ++ name
  | .reported text => text

def Outage.message : Outage → String
  | .timedOut url => "request to " ++ url ++ " timed out"
  | .lost url reason => url ++ ": " ++ reason
  | .queryTimedOut reason => "request timed out: " ++ reason
  | .queryRefused reason => "connection failed: " ++ reason
  | .reported text => text

def Breakdown.message : Breakdown → String
  | .badAuthUrl url defect => "invalid auth URL " ++ url ++ ": " ++ defect.message
  | .unbuildable reason => "invalid router request: " ++ reason
  | .randomSource reason => "random source failure: " ++ reason
  | .reported text => text

def KeyDefect.message : KeyDefect → String
  | .noName => "IsA"
  | .strayCharacter => "Char"
  | .noDigit => "Digit"
  | .indexTooLarge => "Map on Result"

def Misconfiguration.message : Misconfiguration → String
  | .wrongType found expected key =>
      "invalid type: " ++ found ++ ", expected " ++ expected ++ " for key \x60" ++ key ++ "\x60"
  | .badKey defect => defect.message
  | .badListenAddress text =>
      "invalid listen address '" ++ text ++ "': invalid socket address syntax"
  | .unknownDelegation text =>
      "unknown delegation '" ++ text ++ "', expected 'session' or 'forward'"
  | .notDelegated => "router auth not configured"
  | .cannotBind address reason => "failed to bind " ++ address ++ ": " ++ reason
  | .reported text => text

def SystemFailure.message : SystemFailure → String
  | .os code _ text => text ++ " (os error " ++ toString code ++ ")"
  | .reported text => text

def Fault.message : Fault → String
  | .protocol cause => "Router protocol error: " ++ cause.message
  | .unreachable cause => "Router unreachable: " ++ cause.message
  | .invalidCredentials => "Invalid credentials"
  | .internal cause => "Internal error: " ++ cause.message
  | .config cause => "Configuration error: " ++ cause.message
  | .invalidInput text => "Invalid input: " ++ text
  | .http reason => "HTTP request failed: " ++ reason
  | .json reason => "JSON parsing error: " ++ reason
  | .io cause => "I/O error: " ++ cause.message
  | .generic text => "Generic error: " ++ text

end RouterGate
