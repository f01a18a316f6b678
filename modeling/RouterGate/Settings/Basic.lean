import RouterGate.Files.Path
import RouterGate.Json.Value
import RouterGate.Net.SocketAddress
import RouterGate.Settings.Layer
/-!
The settings of the program, with their defaults, and where they are read from.
-/
namespace RouterGate

structure Settings where
  listenAddr : String := ":8080"
  authMode : String := ""
  username : String := "admin"
  password : String := ""
  rciUrl : String := "http://localhost:79"
  sessionTtlSecs : Nat := 86400
  cacheTtlSecs : Nat := 30
  reapIntervalSecs : Nat := 600
  routerTimeoutSecs : Nat := 5
  delegation : String := "session"
  deriving DecidableEq, Repr

namespace Settings

def names : List String :=
  ["listen_addr", "auth_mode", "username", "password", "rci_url", "session_ttl_secs",
    "cache_ttl_secs", "reap_interval_secs", "router_timeout_secs", "delegation"]

def defaults : Settings := {}

/-- A number of 64 bits in digits, perhaps after a plus sign. -/
def number? (text : List Char) : Option Nat :=
  (Net.decimal? (if text.head? = some '+' then text.drop 1 else text)).bind fun n =>
    if n < UInt64.size then some n else none

/-- A count: words for yes are one, words for no are zero, else a number. -/
def count? (text : String) : Option Nat :=
  let word := Text.lower text
  if ["true", "on", "yes"].contains word then some 1
  else if ["false", "off", "no"].contains word then some 0
  else number? text.toList

def textAt (default key : String) (all : Assignments) : String :=
  (all.value? key).getD default

def countAt (default : Nat) (key : String) (all : Assignments) : Except Fault Nat :=
  match all.value? key with
  | none => .ok default
  | some text =>
      match count? text with
      | some n => .ok n
      | none =>
          .error (.config (.wrongType ("string " ++ Text.Quoted.encode text) "an integer" key))

def ofAssignments (all : Assignments) : Except Fault Settings := do
  let sessionTtl ← countAt defaults.sessionTtlSecs "session_ttl_secs" all
  let cacheTtl ← countAt defaults.cacheTtlSecs "cache_ttl_secs" all
  let reapInterval ← countAt defaults.reapIntervalSecs "reap_interval_secs" all
  let routerTimeout ← countAt defaults.routerTimeoutSecs "router_timeout_secs" all
  return {
    listenAddr := textAt defaults.listenAddr "listen_addr" all
    authMode := textAt defaults.authMode "auth_mode" all
    username := textAt defaults.username "username" all
    password := textAt defaults.password "password" all
    rciUrl := textAt defaults.rciUrl "rci_url" all
    sessionTtlSecs := sessionTtl
    cacheTtlSecs := cacheTtl
    reapIntervalSecs := reapInterval
    routerTimeoutSecs := routerTimeout
    delegation := textAt defaults.delegation "delegation" all }

def load (file : Option String) (environment : List (String × String)) :
    Except Fault Settings := do
  let all ← merged (assignments (file.getD "").toList) (ofVariables environment)
  ofAssignments all

/-- The files that a given name may mean, the first one that exists counts: the name itself,
or the name with the usual ending. -/
def candidates (name : String) : List Files.Path :=
  let path := Files.Path.ofString name
  match path.parts.getLast? with
  | none => []
  | some last =>
      let longer : Files.Path := ⟨path.fromRoot, path.parts.dropLast ++ [last ++ ".conf"]⟩
      if name.toList.getLast? = some '/' then [longer] else [path, longer]

def fileText? (read : Files.Path → Option Bytes) (name : String) : Option String :=
  match (candidates name).findSome? read with
  | none => none
  | some content => Bytes.text? content

/-- The settings that a record gives; left out fields have their defaults. -/
def ofJson? (document : Json) : Option Settings := do
  match ← document.fields? names with
  | [listenAddr, authMode, username, password, rciUrl, sessionTtl, cacheTtl, reapInterval,
      routerTimeout, delegation] =>
      some {
        listenAddr := ← Json.textOr defaults.listenAddr listenAddr
        authMode := ← Json.textOr defaults.authMode authMode
        username := ← Json.textOr defaults.username username
        password := ← Json.textOr defaults.password password
        rciUrl := ← Json.textOr defaults.rciUrl rciUrl
        sessionTtlSecs := ← Json.wordOr defaults.sessionTtlSecs sessionTtl
        cacheTtlSecs := ← Json.wordOr defaults.cacheTtlSecs cacheTtl
        reapIntervalSecs := ← Json.wordOr defaults.reapIntervalSecs reapInterval
        routerTimeoutSecs := ← Json.wordOr defaults.routerTimeoutSecs routerTimeout
        delegation := ← Json.textOr defaults.delegation delegation }
  | _ => none

/-- The address to listen at; a port alone means all addresses of this host. -/
def listenAddress (settings : Settings) : Except Fault Net.SocketAddress :=
  let text :=
    if settings.listenAddr.toList.head? = some ':' then "0.0.0.0" ++ settings.listenAddr
    else settings.listenAddr
  match Net.SocketAddress.parse? text with
  | some address => .ok address
  | none => .error (.config (.badListenAddress settings.listenAddr))

end Settings

end RouterGate
