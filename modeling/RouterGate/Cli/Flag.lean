import RouterGate.Program
/-!
The flags of the command line.
-/
namespace RouterGate.Cli

inductive Flag where
  | addr
  | config
  | debug
  | logJson
  | logFile
  | help
  | version
  deriving DecidableEq, Repr

namespace Flag

def all : List Flag :=
  [.addr, .config, .debug, .logJson, .logFile, .help, .version]

def word : Flag → String
  | .addr => "addr"
  | .config => "config"
  | .debug => "debug"
  | .logJson => "log-json"
  | .logFile => "log-file"
  | .help => "help"
  | .version => "version"

def letter? : Flag → Option Char
  | .help => some 'h'
  | .version => some 'V'
  | _ => none

def valueName? : Flag → Option String
  | .addr => some "ADDR"
  | .config => some "CONFIG"
  | .logFile => some "LOG_FILE"
  | _ => none

def takesValue (flag : Flag) : Bool :=
  flag.valueName?.isSome

def takesPath : Flag → Bool
  | .config => true
  | .logFile => true
  | _ => false

def environmentName? : Flag → Option String
  | .config => some "TT_CONFIG"
  | .logFile => some "TT_LOG_FILE"
  | _ => none

def usualConfig : String := "/opt/trusttunnel_client/manager.conf"

def default? : Flag → Option String
  | .config => some usualConfig
  | _ => none

def purpose : Flag → String
  | .addr => "Listen address (\x60host:port\x60 or \x60:port\x60), overrides LISTEN_ADDR"
  | .config => "Manager config file"
  | .debug => "Enable debug logging"
  | .logJson => "Log as JSON lines"
  | .logFile => "Also write logs to this file (rotated daily)"
  | .help => "Print help"
  | .version => "Print version"

def ofWord? (word : String) : Option Flag :=
  all.find? fun flag => flag.word == word

def ofLetter? (letter : Char) : Option Flag :=
  all.find? fun flag => flag.letter? == some letter

def shown (flag : Flag) : String :=
  match flag.valueName? with
  | none => "--" ++ flag.word
  | some value => "--" ++ flag.word ++ " <" ++ value ++ ">"

theorem ofWord?_word (flag : Flag) : ofWord? flag.word = some flag := by
  cases flag <;> decide

end Flag

end RouterGate.Cli
