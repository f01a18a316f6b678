import RouterGate.Http.Credentials
import RouterGate.Http.Header
import RouterGate.Program
import RouterGate.Url.Parse
/-!
Requests to the router and what comes back. A router is anything that answers, times out or
breaks off at each request; it may go by all that was exchanged before.
-/
namespace RouterGate.Router

inductive Method where
  | get
  | post
  deriving DecidableEq, Repr

def Method.text : Method → String
  | .get => "GET"
  | .post => "POST"

structure Request where
  method : Method
  url : Url
  authorization : Option String
  cookie : Option String
  body : Option Bytes
  /-- How many milliseconds the answer is waited for. -/
  patience : Nat
  deriving DecidableEq, Repr

/-- The body of an answer: it may break off, or keep its reader waiting for too long. -/
inductive Body where
  | whole (content : Bytes)
  | broken (reason : String)
  | stalled (reason : String)
  deriving DecidableEq, Repr

structure Answer where
  status : Nat
  headers : Http.Headers
  body : Body
  deriving DecidableEq, Repr

inductive Delivery where
  | answered (answer : Answer)
  | timedOut (reason : String)
  /-- There was no connection. -/
  | refused (reason : String)
  /-- There was a connection, but it ended without an answer. -/
  | dropped (reason : String)
  deriving DecidableEq, Repr

structure Reply where
  delivery : Delivery
  elapsed : Nat
  deriving DecidableEq, Repr

structure Exchange where
  request : Request
  reply : Reply
  deriving DecidableEq, Repr

/-- The reply to a request after some exchanges. -/
abbrev Behavior := List Exchange → Request → Reply

def unreachable (reason : String) : Behavior :=
  fun _ _ => ⟨.refused reason, 0⟩

/-- What requests are made with. -/
structure Client where
  /-- How the names of hosts are mapped. -/
  hosts : Url.HostMapping
  /-- How many milliseconds an answer is waited for. -/
  patience : Nat

def userAgent : String := Program.name ++ "/" ++ Program.version

def contentType : String := "application/json"

namespace Request

/-- The request to an address, or why there is none: the address is none, nothing can be asked
there, or the cookies are no header value. A user that the address names is told in a header. -/
def build (method : Method) (address : String) (cookie : Option String) (body : Option Bytes)
    (client : Client) : Except String Request :=
  match Url.parse client.hosts address with
  | .error defect => .error ("builder error: " ++ defect.message)
  | .ok (.other text) =>
      .error ("builder error for url (" ++ text ++ "): URL scheme is not allowed")
  | .ok (.web url) =>
      if !url.isRequestable then
        .error ("builder error for url (" ++ url.withoutUser.text ++ "): URL scheme is not allowed")
      else if !(cookie.all fun text => Http.Header.isLegalValue (Bytes.ofString text)) then
        .error "builder error: failed to parse header value"
      else
        .ok ⟨method, url.target, url.user?.map Credentials.basicValue, cookie, body,
          client.patience⟩

end Request

end RouterGate.Router
