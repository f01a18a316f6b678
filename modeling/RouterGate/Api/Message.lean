import RouterGate.Http.Header
import RouterGate.Json.Writer
/-!
Requests to the management API, and its responses.
-/
namespace RouterGate.Api

structure Request where
  method : String
  /-- What is asked for: a path or a whole address, perhaps with a query. -/
  target : String
  headers : Http.Headers
  body : Bytes
  deriving DecidableEq, Repr

structure Response where
  status : Nat
  headers : Http.Headers
  body : Bytes
  deriving DecidableEq, Repr

def endsPath (c : Char) : Bool :=
  c == '?' || c == '#'

def afterHost (address : List Char) : List Char :=
  match address.dropWhile (· != '/') with
  | [] => ['/']
  | path => path

def afterScheme? : List Char → Option (List Char)
  | ':' :: '/' :: '/' :: rest => some rest
  | '/' :: _ => none
  | _ :: rest => afterScheme? rest
  | [] => none

def Request.path (request : Request) : String :=
  let named := request.target.toList.takeWhile fun c => !endsPath c
  match afterScheme? named with
  | some rest => String.ofList (afterHost rest)
  | none => String.ofList named

namespace Response

def empty (status : Nat) : Response :=
  ⟨status, [], []⟩

def plain (status : Nat) (text : String) : Response :=
  ⟨status, [.ofText "content-type" "text/plain; charset=utf-8"], Bytes.ofString text⟩

def json (status : Nat) (document : Json) : Response :=
  ⟨status, [.ofText "content-type" "application/json"], Json.write document⟩

def withHeader (response : Response) (name value : String) : Response :=
  { response with headers := response.headers ++ [.ofText name value] }

def measured (response : Response) : Response :=
  response.withHeader "content-length" (toString response.body.length)

def withoutBody (response : Response) : Response :=
  { response with body := [] }

end Response

end RouterGate.Api
