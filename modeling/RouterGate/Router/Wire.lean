import RouterGate.Http.Wire
import RouterGate.Router.Exchange
/-!
Requests to the router as bytes, and what bytes that came back amount to. A connection serves
one request.
-/
namespace RouterGate.Router

namespace Request

def authority (request : Request) : String :=
  request.url.host ++ request.url.portText

def fields (request : Request) : Http.Headers :=
  [.ofText "accept" "*/*", .ofText "user-agent" userAgent, .ofText "host" request.authority,
    .ofText "connection" "close"] ++
  (request.authorization.map (Http.Header.ofText "authorization")).toList ++
  (request.cookie.map (Http.Header.ofText "cookie")).toList ++
  (match request.body with
  | none => []
  | some body => [.ofText "content-type" contentType,
      .ofText "content-length" (toString body.length)])

def bytes (request : Request) : Bytes :=
  (Http.Head.write ⟨request.method.text ++ " " ++ request.url.pathText ++ request.url.queryText ++
    " HTTP/1.1", request.fields⟩) ++ request.body.getD []

end Request

/-- Why no more bytes came. -/
inductive Ending where
  | closed
  | failed (reason : String)
  | late
  deriving DecidableEq, Repr

namespace Ending

def reason : Ending → String
  | .closed => "connection closed before message completed"
  | .failed reason => reason
  | .late => "operation timed out"

end Ending

namespace Answer

def status? (first : String) : Option Nat :=
  match Text.fields ' ' first.toList with
  | _ :: code :: _ => if code.length = 3 then Net.decimal? code else none
  | _ => none

def hasNoBody (status : Nat) : Bool :=
  status == 204 || status == 304

def lastBody (framing : Http.Framing) (rest : Bytes) : Ending → Body
  | .closed => if framing = .toTheEnd then .whole rest else .broken Ending.closed.reason
  | .failed reason => .broken reason
  | .late => .stalled Ending.late.reason

def body? (status : Nat) (fields : Http.Headers) (rest : Bytes) (ending : Option Ending) :
    Option Body :=
  if hasNoBody status then some (.whole [])
  else
    let framing := Http.Framing.ofHeaders fields
    match framing.cut? rest with
    | some content => some (.whole content)
    | none => ending.map (lastBody framing rest)

end Answer

def unanswered : Ending → Delivery
  | .late => .timedOut Ending.late.reason
  | ending => .dropped ending.reason

def Delivery.read? (received : Bytes) (ending : Option Ending) : Option Delivery :=
  match Http.Head.read received with
  | .error _ => some (.dropped "invalid answer")
  | .ok none => ending.map unanswered
  | .ok (some (head, rest)) =>
      match Answer.status? head.first with
      | none => some (.dropped "invalid answer")
      | some status =>
          (Answer.body? status head.fields rest ending).map fun body =>
            .answered ⟨status, head.fields, body⟩

theorem Delivery.isSome_read? (received : Bytes) (ending : Ending) :
    (Delivery.read? received (some ending)).isSome = true := by
  simp only [Delivery.read?]
  split
  · rfl
  · rfl
  · split
    · rfl
    · simp only [Option.isSome_map, Answer.body?]
      split
      · rfl
      · split <;> rfl

def Delivery.ofBytes (received : Bytes) (ending : Ending) : Delivery :=
  (Delivery.read? received (some ending)).get (Delivery.isSome_read? received ending)

end RouterGate.Router
