import RouterGate.Fault.Basic
import RouterGate.Json.Value
import RouterGate.Log.Event
import RouterGate.Text.Ascii
/-!
How a fault is reported: by code and category to machines, by level to the log, and by a text
that tells nothing about the router to the one who asked.
-/
namespace RouterGate

inductive FaultCode where
  | connectionTimeout
  | networkUnreachable
  | invalidCredentials
  | configurationInvalid
  | parsingFailed
  | invalidInput
  | externalServiceError
  | protocolViolation
  | internalError
  deriving DecidableEq, Repr

namespace FaultCode

def number : FaultCode → Nat
  | .connectionTimeout => 1001
  | .networkUnreachable => 1004
  | .invalidCredentials => 1101
  | .configurationInvalid => 1202
  | .parsingFailed => 1401
  | .invalidInput => 1402
  | .externalServiceError => 1603
  | .protocolViolation => 1701
  | .internalError => 1901

def category : FaultCode → String
  | .connectionTimeout => "connection"
  | .networkUnreachable => "connection"
  | .invalidCredentials => "authentication"
  | .configurationInvalid => "configuration"
  | .parsingFailed => "data"
  | .invalidInput => "data"
  | .externalServiceError => "service"
  | .protocolViolation => "protocol"
  | .internalError => "internal"

def name : FaultCode → String
  | .connectionTimeout => "ConnectionTimeout"
  | .networkUnreachable => "NetworkUnreachable"
  | .invalidCredentials => "InvalidCredentials"
  | .configurationInvalid => "ConfigurationInvalid"
  | .parsingFailed => "ParsingFailed"
  | .invalidInput => "InvalidInput"
  | .externalServiceError => "ExternalServiceError"
  | .protocolViolation => "ProtocolViolation"
  | .internalError => "InternalError"

def all : List FaultCode :=
  [.connectionTimeout, .networkUnreachable, .invalidCredentials, .configurationInvalid,
    .parsingFailed, .invalidInput, .externalServiceError, .protocolViolation, .internalError]

def ofName? (text : String) : Option FaultCode :=
  all.find? fun code => code.name == text

theorem ofName?_name (code : FaultCode) : ofName? code.name = some code := by
  cases code <;> decide

end FaultCode

namespace Fault

/-- An outage counts as a timeout when its text says so. -/
def code : Fault → FaultCode
  | .protocol _ => .protocolViolation
  | .unreachable cause =>
      if Text.occursIn "timed out".toList cause.message.toList then .connectionTimeout
      else .networkUnreachable
  | .invalidCredentials => .invalidCredentials
  | .internal _ => .internalError
  | .config _ => .configurationInvalid
  | .invalidInput _ => .invalidInput
  | .http _ => .externalServiceError
  | .json _ => .parsingFailed
  | .io _ => .internalError
  | .generic _ => .internalError

def isRetryable : Fault → Bool
  | .unreachable _ => true
  | _ => false

def isRefusal : Fault → Bool
  | .invalidCredentials => true
  | _ => false

def publicMessage : Fault → String
  | .protocol _ => "Router authentication protocol error"
  | .unreachable _ => "Router unreachable"
  | .invalidCredentials => "Invalid username or password"
  | .internal _ => "Internal error occurred"
  | .config _ => "Configuration error"
  | .invalidInput _ => "Invalid request"
  | .http _ => "HTTP request failed"
  | .json _ => "Data parsing error"
  | .io _ => "Internal error occurred"
  | .generic _ => "Internal error occurred"

def level : Fault → Log.Level
  | .invalidCredentials => .info
  | .invalidInput _ => .info
  | .unreachable _ => .warn
  | _ => .error

def event (operation : String) (fault : Fault) : Log.Event where
  level := fault.level
  source := .fault
  message := fault.message
  fields := [("error_code", .number fault.code.number),
    ("category", .quoted fault.code.category), ("operation", .quoted operation)]

def answer (clock : String) (fault : Fault) : Json :=
  .record [("category", .text fault.code.category), ("code", .natural fault.code.number),
    ("error", .text fault.publicMessage), ("ok", .bool false),
    ("retryable", .bool fault.isRetryable), ("timestamp", .text clock)]

def loginStatus : Fault → Nat
  | .invalidCredentials => 401
  | .unreachable _ => 502
  | .protocol _ => 502
  | .http _ => 502
  | .invalidInput _ => 400
  | _ => 500

def kind : Fault → String
  | .protocol _ => "Protocol"
  | .unreachable _ => "Unreachable"
  | .invalidCredentials => "InvalidCredentials"
  | .internal _ => "Internal"
  | .config _ => "Config"
  | .invalidInput _ => "InvalidInput"
  | .http _ => "Http"
  | .json _ => "Json"
  | .io _ => "Io"
  | .generic _ => "Generic"

def inspected (fault : Fault) : String :=
  match fault with
  | .invalidCredentials => fault.kind
  | .io (.os code kind text) =>
      "Io(Os \x7b code: " ++ toString code ++ ", kind: " ++ kind ++ ", message: " ++
        Text.Quoted.encode text ++ " \x7d)"
  | .protocol cause => quoted cause.message
  | .unreachable cause => quoted cause.message
  | .internal cause => quoted cause.message
  | .config cause => quoted cause.message
  | .invalidInput text => quoted text
  | .http reason => quoted reason
  | .json reason => quoted reason
  | .io (.reported text) => quoted text
  | .generic text => quoted text
where
  quoted (text : String) : String :=
    fault.kind ++ "(" ++ Text.Quoted.encode text ++ ")"

end Fault

end RouterGate
