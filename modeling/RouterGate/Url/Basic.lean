import RouterGate.Http.Credentials
import RouterGate.Url.Host
/-!
Web addresses in normal form, and their text.
-/
namespace RouterGate

/-- An address with a host. Every part is kept percent-coded, as it is shown. -/
structure Url where
  scheme : String
  username : String
  password : String
  host : String
  /-- Left out when it is the usual port of the scheme. -/
  port : Option Nat
  path : List String
  query : Option String
  fragment : Option String
  deriving DecidableEq, Repr

namespace Url

def usualPorts : List (String × Nat) :=
  [("http", 80), ("https", 443), ("ws", 80), ("wss", 443), ("ftp", 21)]

def usualPort? (scheme : String) : Option Nat :=
  (usualPorts.find? (·.1 == scheme)).map (·.2)

def userText (url : Url) : String :=
  if url.username.isEmpty && url.password.isEmpty then ""
  else url.username ++ (if url.password.isEmpty then "" else ":" ++ url.password) ++ "@"

def portText (url : Url) : String :=
  match url.port with
  | none => ""
  | some port => ":" ++ toString port

def pathText (url : Url) : String :=
  String.join (url.path.map ("/" ++ ·))

def queryText (url : Url) : String :=
  match url.query with
  | none => ""
  | some query => "?" ++ query

def fragmentText (url : Url) : String :=
  match url.fragment with
  | none => ""
  | some fragment => "#" ++ fragment

def text (url : Url) : String :=
  url.scheme ++ "://" ++ url.userText ++ url.host ++ url.portText ++ url.pathText ++
    url.queryText ++ url.fragmentText

def decoded? (part : String) : Option String :=
  Bytes.text? (percentDecode part.toList)

/-- The user that an address names. A password that is missing or is no text counts as empty;
with a name that is no text there is no user, and neither with nothing at all. -/
def user? (url : Url) : Option Credentials :=
  match decoded? url.username with
  | none => none
  | some username =>
      let password := (decoded? url.password).getD ""
      if username.isEmpty && password.isEmpty then none else some ⟨username, password⟩

/-- The address once its user is told in a header. -/
def withoutUser (url : Url) : Url :=
  if url.user?.isSome then { url with username := "", password := "" } else url

def target (url : Url) : Url :=
  { url with username := "", password := "", fragment := none }

def refusedInRequest (c : Char) : Bool :=
  c == '"' || c.toNat == 0x60 || c.toNat == 0x7B || c.toNat == 0x7D || c == '%'

/-- Whether a request can be made: over HTTP, plain or secured, to a host that a request line
can hold, and not longer than a request line may be. -/
def isRequestable (url : Url) : Bool :=
  (url.scheme == "http" || url.scheme == "https") &&
    !(url.host.toList.any refusedInRequest) && url.withoutUser.text.length < 65535

def isSecured (url : Url) : Bool :=
  url.scheme == "https"

end Url

end RouterGate
