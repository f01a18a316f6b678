import RouterGate.Http.Cookie
import RouterGate.Json.Value
import RouterGate.Json.Writer
import RouterGate.Router.Challenge
import RouterGate.Router.Dialogue
import RouterGate.Text.Ascii
/-!
The login dialogue. The login address is asked first, and one redirect is followed from there.
An answer of 200 means that the router trusts this connection already; an answer of 401 brings
a challenge, and the response to it is posted to the address that gave it, with the cookies that
came along.
-/
namespace RouterGate.Router

inductive LoginMethod where
  | alreadyTrusted
  | challengeResponse
  deriving DecidableEq, Repr

def LoginMethod.name : LoginMethod → String
  | .alreadyTrusted => "AlreadyTrusted"
  | .challengeResponse => "ChallengeResponse"

structure Login where
  username : String
  method : LoginMethod
  deriving DecidableEq, Repr

structure Endpoint where
  baseUrl : String
  client : Client

def send (method : Method) (address : String) (cookie : Option String) (body : Option Bytes)
    (client : Client) : Dialogue (Except Fault Answer) :=
  match Request.build method address cookie body client with
  | .error reason => .done (.error (.internal (.unbuildable reason)))
  | .ok request =>
      .ask request fun reply =>
        match reply.delivery with
        | .answered answer => .done (.ok answer)
        | .timedOut _ => .done (.error (.unreachable (.timedOut address)))
        | .refused reason => .done (.error (.unreachable (.lost address reason)))
        | .dropped reason => .done (.error (.unreachable (.lost address reason)))

def redirectTarget (hosts : Url.HostMapping) (address location : String) :
    Except Fault String :=
  match Url.parse hosts address with
  | .error defect => .error (.internal (.badAuthUrl address defect))
  | .ok (.other _) => .error (.protocol (.badLocation location .relativeWithoutBase))
  | .ok (.web base) =>
      match Url.join hosts base location with
      | .error defect => .error (.protocol (.badLocation location defect))
      | .ok target => .ok target.text

/-- The place that an answer redirects to: its first `Location`, if it is text and not empty. -/
def redirection? (answer : Answer) : Option String :=
  if Http.isRedirect answer.status then
    match Http.Headers.firstText? "location" answer.headers with
    | none => none
    | some location => if location.isEmpty then none else some (String.ofList location)
  else none

def redirectNote (address : String) : Log.Event :=
  ⟨.info, .login, "Following router auth redirect", [("target_url", .shown address)]⟩

def loginDocument (username response : String) : Bytes :=
  Json.write (.record [("login", .text username), ("password", .text response)])

namespace Endpoint

def ofAddress (address : String) (client : Client) : Endpoint :=
  ⟨Text.dropTrailing '/' address, client⟩

def authUrl (endpoint : Endpoint) : String :=
  endpoint.baseUrl ++ "/auth"

/-- Ask the login address, following at most one redirect; tells the address that answered. -/
def probe (endpoint : Endpoint) (cookie : Option String) :
    Dialogue (Except Fault (String × Answer)) := do
  match ← send .get endpoint.authUrl cookie none endpoint.client with
  | .error fault => return .error fault
  | .ok answer =>
      match redirection? answer with
      | none => return .ok (endpoint.authUrl, answer)
      | some location =>
          match redirectTarget endpoint.client.hosts endpoint.authUrl location with
          | .error fault => return .error fault
          | .ok target =>
              Dialogue.say (redirectNote target)
              match ← send .get target cookie none endpoint.client with
              | .error fault => return .error fault
              | .ok second => return .ok (target, second)

def answerChallenge (endpoint : Endpoint) (address : String) (headers : Http.Headers)
    (challenge : Challenge) (username password : String) : Dialogue (Except Fault Login) := do
  match ← send .post address (Http.Cookie.returned? headers)
      (some (loginDocument username (challenge.respond username password)))
      endpoint.client with
  | .error fault => return .error fault
  | .ok answer =>
      if answer.status = 200 then return .ok ⟨username, .challengeResponse⟩
      else
        Dialogue.say ⟨.debug, .login, "Router rejected credentials",
          [("status", .shown (Http.statusText answer.status))]⟩
        return .error .invalidCredentials

def login (endpoint : Endpoint) (username password : String) :
    Dialogue (Except Fault Login) := do
  match ← endpoint.probe none with
  | .error fault => return .error fault
  | .ok (address, answer) =>
      if answer.status = 200 then
        Dialogue.say ⟨.debug, .login, "Router already trusts this connection",
          [("username", .quoted username)]⟩
        return .ok ⟨username, .alreadyTrusted⟩
      else if answer.status = 401 then
        match Challenge.ofHeaders answer.headers with
        | .error fault => return .error fault
        | .ok challenge =>
            endpoint.answerChallenge address answer.headers challenge username password
      else return .error (.protocol (.unexpectedStatus answer.status address))

/-- Whether the router takes a password; a refusal is an answer, not a fault. -/
def verify (endpoint : Endpoint) (username password : String) :
    Dialogue (Except Fault Bool) := do
  match ← endpoint.login username password with
  | .ok _ => return .ok true
  | .error .invalidCredentials => return .ok false
  | .error fault => return .error fault

/-- A plain yes or no: every fault means no. -/
def verifyOnce (endpoint : Endpoint) (username password : String) : Dialogue Bool := do
  match ← endpoint.verify username password with
  | .ok valid => return valid
  | .error fault =>
      Dialogue.say ⟨.warn, .login, "Router verification failed: " ++ fault.message, []⟩
      return false

def verifyCookies (endpoint : Endpoint) (cookies : String) : Dialogue (Except Fault Bool) := do
  match ← endpoint.probe (some cookies) with
  | .error fault => return .error fault
  | .ok (_, answer) => return .ok (answer.status = 200)

end Endpoint

end RouterGate.Router
