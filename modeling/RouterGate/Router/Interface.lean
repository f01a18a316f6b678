import RouterGate.Fault.Basic
import RouterGate.Json.Reader
import RouterGate.Router.Dialogue
import RouterGate.Text.Ascii
import RouterGate.Text.Blank
/-!
What the router's management interface tells about a network interface.
-/
namespace RouterGate.Router

structure Interface where
  address : String
  deriving DecidableEq, Repr

namespace Interface

def ipv4? (interface : Interface) : Option String :=
  let trimmed := Text.trim interface.address.toList
  if trimmed.isEmpty then none else some (String.ofList trimmed)

/-- The address is all that is read of a record; without it there is none. -/
def ofJson? (document : Json) : Option Interface := do
  match ← document.fields? ["address"] with
  | [address] => some ⟨← Json.textOr "" address⟩
  | _ => none

def read (document : Bytes) : Except Fault Interface :=
  match (Json.read? document).bind ofJson? with
  | some interface => .ok interface
  | none => .error (.json "not the description of an interface")

end Interface

structure Management where
  baseUrl : String
  client : Client

namespace Management

def ofAddress (address : String) (client : Client) : Management :=
  ⟨Text.dropTrailing '/' address, client⟩

def interfaceUrl (management : Management) (name : String) : String :=
  management.baseUrl ++ "/rci/show/interface/" ++ name

def readAnswer (name : String) (answer : Answer) : Except Fault Interface :=
  if Http.isSuccess answer.status then
    match answer.body with
    | .whole content => Interface.read content
    | .broken reason => .error (.http reason)
    | .stalled reason => .error (.unreachable (.queryTimedOut reason))
  else .error (.protocol (.interfaceStatus answer.status name))

def readReply (name : String) (reply : Reply) : Except Fault Interface :=
  match reply.delivery with
  | .answered answer => readAnswer name answer
  | .timedOut reason => .error (.unreachable (.queryTimedOut reason))
  | .refused reason => .error (.unreachable (.queryRefused reason))
  | .dropped reason => .error (.http reason)

def showInterface (management : Management) (name : String) :
    Dialogue (Except Fault Interface) :=
  .note ⟨.trace, .interface, "RCI request",
      [("url", .shown (management.interfaceUrl name))]⟩
    (match Request.build .get (management.interfaceUrl name) none none management.client with
    | .error reason => .done (.error (.http reason))
    | .ok request => .ask request fun reply => .done (readReply name reply))

end Management

end RouterGate.Router
