import RouterGate.Api.Answer
import RouterGate.Http.Status
import RouterGate.Http.Wire
/-!
Requests and responses of the API as bytes. A connection serves one request.
-/
namespace RouterGate.Api

namespace Request

def ofHead? (head : Http.Head) (body : Bytes) : Option Request :=
  match (Text.fields ' ' head.first.toList).map String.ofList with
  | [method, target, version] =>
      if version = "HTTP/1.1" ∨ version = "HTTP/1.0" then
        some ⟨method, target, head.fields, body⟩
      else none
  | _ => none

/-- A request whose fields tell no end has no body. Of a body that is too large only as much is
waited for as shows that it is. -/
def body? (fields : Http.Headers) (rest : Bytes) : Option Bytes :=
  match Http.Framing.ofHeaders fields with
  | .counted length => (Http.Framing.counted (min length (bodyLimit + 1))).cut? rest
  | .chunked => Http.Framing.chunked.cut? rest
  | .toTheEnd => some []

/-- The request that bytes make: nothing if there is more to come, an error if they make none. -/
def read (received : Bytes) : Except Unit (Option Request) :=
  match Http.Head.read received with
  | .error _ => .error ()
  | .ok none => .ok none
  | .ok (some (head, rest)) =>
      match body? head.fields rest with
      | none => .ok none
      | some body =>
          match ofHead? head body with
          | none => .error ()
          | some request => .ok (some request)

end Request

namespace Response

def unreadable : Response :=
  (empty 400).measured

def bytes (date : String) (response : Response) : Bytes :=
  Http.Head.write ⟨"HTTP/1.1 " ++ Http.statusText response.status,
    response.headers ++ [.ofText "connection" "close", .ofText "date" date]⟩ ++ response.body

end Response

end RouterGate.Api
