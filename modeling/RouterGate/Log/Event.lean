/-!
What the program reports to its operator, before it is written anywhere.
-/
namespace RouterGate.Log

inductive Level where
  | trace
  | debug
  | info
  | warn
  | error
  deriving DecidableEq, Repr

namespace Level

/-- More verbose levels have greater numbers; zero stands for silence. -/
def verbosity : Level → Nat
  | .error => 1
  | .warn => 2
  | .info => 3
  | .debug => 4
  | .trace => 5

def name : Level → String
  | .trace => "TRACE"
  | .debug => "DEBUG"
  | .info => "INFO"
  | .warn => "WARN"
  | .error => "ERROR"

end Level

inductive Source where
  | main
  | config
  | fault
  | gateway
  | sessions
  | login
  | interface
  | discovery
  | verdicts
  | server
  | requests
  deriving DecidableEq, Repr

def Source.target : Source → String
  | .main => "trusttunnel_manager"
  | .config => "trusttunnel_manager::config"
  | .fault => "trusttunnel_manager::error"
  | .gateway => "trusttunnel_manager::auth::gateway"
  | .sessions => "trusttunnel_manager::auth::session_store"
  | .login => "trusttunnel_manager::ndm::verifier"
  | .interface => "trusttunnel_manager::ndm::rci"
  | .discovery => "trusttunnel_manager::ndm::resolver"
  | .verdicts => "trusttunnel_manager::auth::verification_cache"
  | .server => "trusttunnel_manager::server"
  | .requests => "trusttunnel_manager::server::middleware"

/-- The value of a field: `quoted` texts get quotes in plain lines, `shown` ones do not. -/
inductive Field where
  | quoted (text : String)
  | shown (text : String)
  | number (n : Nat)
  | flag (value : Bool)
  deriving DecidableEq, Repr

structure Event where
  level : Level
  source : Source
  message : String
  fields : List (String × Field)
  deriving DecidableEq, Repr

end RouterGate.Log
