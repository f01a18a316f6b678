import RouterGate.Api.Page
import RouterGate.Gateway.Login
import RouterGate.Json.Reader
import RouterGate.Program
/-!
What the API answers: the contents of its pages, and the rules for every answer, whatever page
it comes from.
-/
namespace RouterGate.Api

structure Host where
  name : String
  architecture : String
  clock : String
  deriving DecidableEq, Repr

structure LoginRequest where
  username : String
  password : String
  deriving DecidableEq, Repr

namespace LoginRequest

def ofJson? (document : Json) : Option LoginRequest := do
  match ← document.fields? ["username", "password"] with
  | [username, password] => some ⟨← Json.textOr "" username, ← Json.textOr "" password⟩
  | _ => none

def read? (body : Bytes) : Option LoginRequest :=
  (Json.read? body).bind ofJson?

end LoginRequest

def challengeText : String := "Basic realm=\"TrustTunnel Manager\""

def unauthorized : Response :=
  (Response.json 401 (.record [("error", .text "unauthorized")])).withHeader
    "www-authenticate" challengeText

def done : Response :=
  .json 200 (.record [("ok", .bool true)])

def refusal (reason : String) : Response :=
  .json 400 (.record [("ok", .bool false), ("error", .text reason)])

def bodyLimit : Nat := 2097152

def tooLarge : Response :=
  .plain 413 "Failed to buffer the request body: length limit exceeded"

def unreadableLogin : Fault :=
  .invalidInput "login body: no username and password can be read"

def loggedIn (result : LoginResult) (sessionTtl : Option Nat) : Response :=
  match result.token, sessionTtl with
  | some token, some ttl => done.withHeader "set-cookie" (Http.Cookie.settingSession token ttl)
  | _, _ => done

def loginFailed (host : Host) (fault : Fault) : Response :=
  .json fault.loginStatus (fault.answer host.clock)

/-- The login page. A body that is too large is not even looked at, and without a router there is
nobody to ask. -/
def login (host : Host) (gateway : Gateway) (now : Nat) (draws : List Draw) (body : Bytes) :
    Router.Dialogue (Response × Gateway) :=
  if bodyLimit < body.length then .done (tooLarge, gateway)
  else if gateway.mode ≠ .delegated then .done (refusal "router auth not configured", gateway)
  else
    match LoginRequest.read? body with
    | none => .note (unreadableLogin.event "login") (.done (refusal "invalid request", gateway))
    | some request => do
        match ← gateway.login now request.username request.password draws with
        | (.ok result, kept) => return (loggedIn result kept.sessionTtl?, kept)
        | (.error fault, kept) =>
            Router.Dialogue.say (fault.event "login")
            return (loginFailed host fault, kept)

def tokenOf? (headers : Http.Headers) : Option String :=
  Http.Cookie.valueOf? Http.Cookie.sessionName (Http.Cookie.presented headers)

def loggedOut : Response :=
  done.withHeader "set-cookie" Http.Cookie.clearingSession

def logout (gateway : Gateway) (headers : Http.Headers) :
    Router.Dialogue (Response × Gateway) := do
  (gateway.logoutNotes (tokenOf? headers)).forM Router.Dialogue.say
  return (loggedOut, gateway.logout (tokenOf? headers))

def systemPage (host : Host) (gateway : Gateway) (identity : Identity) : Response :=
  .json 200 (.record [
    ("architecture", .text host.architecture),
    ("auth_mode", .text gateway.mode.shown),
    ("hostname", .text host.name),
    ("manager_version", .text Program.version),
    ("router_target_degraded", .bool gateway.isDegraded),
    ("user", (identity.username?.map Json.text).getD .null)])

def showOpen (host : Host) (gateway : Gateway) (now : Nat) (draws : List Draw)
    (request : Request) : OpenPage → Router.Dialogue (Response × Gateway)
  | .login => login host gateway now draws request.body
  | .logout => logout gateway request.headers
  | .check => .done (.json 200 (gateway.check now request.headers).json, gateway)

def showGuarded (host : Host) (gateway : Gateway) (request : Request) (identity : Identity) :
    GuardedPage → Router.Dialogue Response
  | .system => .done (systemPage host gateway identity)
  | .extra page => page.handler.answer request identity

def wrongMethod : Response :=
  .empty 405

def deniedEvent (request : Request) : Log.Event :=
  ⟨.debug, .requests, "Unauthorized request", [("path", .shown request.path)]⟩

/-- What a guarded page answers by a decision. Whether the method is one of the page's is told
only to those who may see the page. -/
def guardedAnswer (host : Host) (gateway : Gateway) (request : Request) (page : GuardedPage) :
    Decision → Router.Dialogue Response
  | .denied => .note (deniedEvent request) (.done unauthorized)
  | .allowed identity =>
      if Methods.reading.accepts request.method then
        showGuarded host gateway request identity page
      else .done wrongMethod

def guard (host : Host) (gateway : Gateway) (now : Nat) (request : Request)
    (page : GuardedPage) : Router.Dialogue (Response × Gateway) := do
  let (decision, kept) ← gateway.authorize now request.headers
  let response ← guardedAnswer host kept request page decision
  return (response, kept)

def content (host : Host) (extra : List ExtraPage) (gateway : Gateway) (now : Nat)
    (draws : List Draw) (request : Request) : Router.Dialogue (Response × Gateway) :=
  match Page.find? extra request.path with
  | none => .done (.empty 404, gateway)
  | some (.openTo page) =>
      if (Page.openTo page).methods.accepts request.method then
        showOpen host gateway now draws request page
      else .done (wrongMethod, gateway)
  | some (.guarded page) => guard host gateway now request page

def withAllowed (extra : List ExtraPage) (request : Request) (response : Response) : Response :=
  match Page.find? extra request.path with
  | none => response
  | some page =>
      if page.methods.accepts request.method then response
      else response.withHeader "allow" page.methods.text

def varyText : String :=
  "origin, access-control-request-method, access-control-request-headers"

def shared (response : Response) : Response :=
  ((response.withHeader "access-control-allow-origin" "*").withHeader
    "access-control-expose-headers" "*").withHeader "vary" varyText

def preflight : Response :=
  (((Response.empty 200).withHeader "access-control-allow-origin" "*").withHeader
    "access-control-allow-methods" "*").withHeader "access-control-allow-headers" "*"
    |>.withHeader "vary" varyText

/-- The length is that of the whole body, also where only the headers are sent. -/
def finished (request : Request) (response : Response) : Response :=
  if request.method = "HEAD" then response.measured.withoutBody else response.measured

def requestEvent (request : Request) (response : Response) (elapsed : Nat) : Log.Event :=
  ⟨.info, .requests, "request",
    [("method", .shown request.method), ("path", .shown request.path),
      ("status", .number response.status), ("elapsed_ms", .number elapsed)]⟩

def respond (host : Host) (extra : List ExtraPage) (gateway : Gateway) (now : Nat)
    (draws : List Draw) (request : Request) : Router.Dialogue (Response × Gateway) :=
  if request.method = "OPTIONS" then
    .done (finished request (withAllowed extra request preflight), gateway)
  else do
    let ((response, kept), took) ← (content host extra gateway now draws request).timed
    Router.Dialogue.say (requestEvent request response took)
    return (finished request (shared (withAllowed extra request response)), kept)

end RouterGate.Api
