import RouterGate.Proofs.Router.Yields
import RouterGate.Proofs.Text.Base64
import RouterGate.Router.Login
/-!
All the ways in which a login can go, one rule for each: where it stops, what was exchanged by
then, and what it comes to.
-/
namespace RouterGate

namespace Url

/-- A value for a header that tells the user whom an address names, by the `Basic` scheme. -/
def TellsUser (url : Url) (value : String) : Prop :=
  ∃ username password code, decoded? url.username = some username ∧
    password = (decoded? url.password).getD "" ∧ (username ≠ "" ∨ password ≠ "") ∧
    Text.Base64.Writes (Bytes.ofString (username ++ ":" ++ password)) code ∧
    value = "Basic " ++ String.ofList code

theorem basicValue_user?_eq_some_iff {url : Url} {value : String} :
    url.user?.map Credentials.basicValue = some value ↔ url.TellsUser value := by
  unfold user? TellsUser
  cases named : decoded? url.username with
  | none => simp
  | some username =>
      by_cases nothing : username = "" ∧ (decoded? url.password).getD "" = ""
      · simp [nothing]
      · simp only [Bool.and_eq_true, String.isEmpty_iff, nothing, if_false, Option.map_some,
          Option.some.injEq, Credentials.basicValue]
        constructor
        · intro same
          exact ⟨username, _, _, rfl, rfl, not_and_or.mp nothing, Text.Base64.writes_encode _,
            same.symm⟩
        · intro told
          obtain ⟨_, _, code, rfl, rfl, -, writes, rfl⟩ := told
          rw [writes.unique (Text.Base64.writes_encode _)]

end Url

namespace Router

/-- An address at which something can be asked. -/
def IsAskable (hosts : Url.HostMapping) (address : String) : Prop :=
  ∃ url, Url.parse hosts address = .ok (.web url) ∧ url.isRequestable = true

namespace Request

/-- A request goes to the place of an address: to its host, by its scheme and port, for its path
and query. The fragment stays behind, and the user is told in a header only. -/
structure GoesToPlace (request : Request) (place : Url) : Prop where
  scheme : request.url.scheme = place.scheme
  host : request.url.host = place.host
  port : request.url.port = place.port
  path : request.url.path = place.path
  query : request.url.query = place.query
  fragment : request.url.fragment = none
  username : request.url.username = ""
  password : request.url.password = ""
  authorization : ∀ value, request.authorization = some value ↔ place.TellsUser value

def GoesTo (request : Request) (hosts : Url.HostMapping) (address : String) : Prop :=
  ∃ place, Url.parse hosts address = .ok (.web place) ∧ request.GoesToPlace place

variable {method : Method} {address : String} {cookie : Option String} {body : Option Bytes}
  {client : Client}

theorem build_eq_ok_iff {request : Request} :
    build method address cookie body client = .ok request ↔
      ∃ url, Url.parse client.hosts address = .ok (.web url) ∧ url.isRequestable = true ∧
        (cookie.all fun text => Http.Header.isLegalValue (Bytes.ofString text)) = true ∧
        request = ⟨method, url.target, url.user?.map Credentials.basicValue, cookie, body,
          client.patience⟩ := by
  constructor
  · intro built
    unfold build at built
    split at built
    next => cases built
    next => cases built
    next url parsed =>
      split at built
      next => cases built
      next requestable =>
        split at built
        next => cases built
        next legal =>
          cases built
          rw [Bool.not_eq_true', Bool.not_eq_false] at requestable legal
          exact ⟨url, parsed, requestable, legal, rfl⟩
  · intro requestable
    obtain ⟨url, parsed, requestable, legal, rfl⟩ := requestable
    simp only [build, parsed, requestable, legal]
    rfl

theorem method_of_build {request : Request}
    (built : build method address cookie body client = .ok request) :
    request.method = method := by
  obtain ⟨url, -, -, -, rfl⟩ := build_eq_ok_iff.mp built
  rfl

theorem body_of_build {request : Request}
    (built : build method address cookie body client = .ok request) :
    request.body = body := by
  obtain ⟨url, -, -, -, rfl⟩ := build_eq_ok_iff.mp built
  rfl

theorem isAskable_of_build {request : Request}
    (built : build method address cookie body client = .ok request) :
    IsAskable client.hosts address := by
  obtain ⟨url, parsed, requestable, -, -⟩ := build_eq_ok_iff.mp built
  exact ⟨url, parsed, requestable⟩

theorem not_isAskable_of_build {reason : String}
    (legal : (cookie.all fun text => Http.Header.isLegalValue (Bytes.ofString text)) = true)
    (unbuilt : build method address cookie body client = .error reason) :
    ¬IsAskable client.hosts address := by
  intro askable
  obtain ⟨url, parsed, requestable⟩ := askable
  have built : build method address cookie body client =
      .ok ⟨method, url.target, url.user?.map Credentials.basicValue, cookie, body,
          client.patience⟩ :=
    build_eq_ok_iff.mpr ⟨url, parsed, requestable, legal, rfl⟩
  rw [unbuilt] at built
  cases built

end Request

def Delivery.outage? (address : String) : Delivery → Option Outage
  | .answered _ => none
  | .timedOut _ => some (.timedOut address)
  | .refused reason => some (.lost address reason)
  | .dropped reason => some (.lost address reason)

theorem Delivery.ne_answered_of_outage? {address : String} {delivery : Delivery}
    {outage : Outage} (silent : delivery.outage? address = some outage) (answer : Answer) :
    delivery ≠ .answered answer := by
  intro answered
  subst answered
  cases silent

/-- How one request can go. -/
inductive Sent (method : Method) (address : String) (cookie : Option String)
    (body : Option Bytes) (client : Client) : List Exchange → Except Fault Answer → Prop
  | unbuilt {reason : String}
      (unbuilt : Request.build method address cookie body client = .error reason) :
      Sent method address cookie body client [] (.error (.internal (.unbuildable reason)))
  | answered {request : Request} {reply : Reply} {answer : Answer}
      (built : Request.build method address cookie body client = .ok request)
      (arrived : reply.delivery = .answered answer) :
      Sent method address cookie body client [⟨request, reply⟩] (.ok answer)
  | lost {request : Request} {reply : Reply} {outage : Outage}
      (built : Request.build method address cookie body client = .ok request)
      (silent : reply.delivery.outage? address = some outage) :
      Sent method address cookie body client [⟨request, reply⟩]
        (.error (.unreachable outage))

theorem sent_of_yields {method : Method} {address : String} {cookie : Option String}
    {body : Option Bytes} {client : Client} {exchanges : List Exchange}
    {result : Except Fault Answer}
    (held : (send method address cookie body client).Yields exchanges result) :
    Sent method address cookie body client exchanges result := by
  unfold send at held
  cases built : Request.build method address cookie body client with
  | error reason =>
      rw [built] at held
      obtain ⟨rfl, rfl⟩ := Dialogue.yields_done_iff.mp held
      exact .unbuilt built
  | ok request =>
      rw [built] at held
      obtain ⟨reply, rest, rfl, later⟩ := Dialogue.yields_ask_iff.mp held
      cases delivery : reply.delivery with
      | answered answer =>
          rw [delivery] at later
          obtain ⟨rfl, rfl⟩ := Dialogue.yields_done_iff.mp later
          exact .answered built delivery
      | timedOut reason =>
          rw [delivery] at later
          obtain ⟨rfl, rfl⟩ := Dialogue.yields_done_iff.mp later
          exact .lost built (by rw [delivery]; rfl)
      | refused reason =>
          rw [delivery] at later
          obtain ⟨rfl, rfl⟩ := Dialogue.yields_done_iff.mp later
          exact .lost built (by rw [delivery]; rfl)
      | dropped reason =>
          rw [delivery] at later
          obtain ⟨rfl, rfl⟩ := Dialogue.yields_done_iff.mp later
          exact .lost built (by rw [delivery]; rfl)

/-- How a probe can go: it may stop at either of its requests or between them. -/
inductive Probed (endpoint : Endpoint) (cookie : Option String) :
    List Exchange → Except Fault (String × Answer) → Prop
  | stopped {exchanges : List Exchange} {fault : Fault}
      (stopped : Sent .get endpoint.authUrl cookie none endpoint.client exchanges
        (.error fault)) :
      Probed endpoint cookie exchanges (.error fault)
  | direct {exchanges : List Exchange} {answer : Answer}
      (answered : Sent .get endpoint.authUrl cookie none endpoint.client exchanges
        (.ok answer))
      (stays : redirection? answer = none) :
      Probed endpoint cookie exchanges (.ok (endpoint.authUrl, answer))
  | astray {exchanges : List Exchange} {answer : Answer} {location : String} {fault : Fault}
      (answered : Sent .get endpoint.authUrl cookie none endpoint.client exchanges
        (.ok answer))
      (leads : redirection? answer = some location)
      (unresolved : redirectTarget endpoint.client.hosts endpoint.authUrl location = .error fault) :
      Probed endpoint cookie exchanges (.error fault)
  | stoppedBeyond {first second : List Exchange} {answer : Answer} {location target : String}
      {fault : Fault}
      (answered : Sent .get endpoint.authUrl cookie none endpoint.client first (.ok answer))
      (leads : redirection? answer = some location)
      (resolved : redirectTarget endpoint.client.hosts endpoint.authUrl location = .ok target)
      (stopped : Sent .get target cookie none endpoint.client second (.error fault)) :
      Probed endpoint cookie (first ++ second) (.error fault)
  | redirected {first second : List Exchange} {answer last : Answer} {location target : String}
      (answered : Sent .get endpoint.authUrl cookie none endpoint.client first (.ok answer))
      (leads : redirection? answer = some location)
      (resolved : redirectTarget endpoint.client.hosts endpoint.authUrl location = .ok target)
      (beyond : Sent .get target cookie none endpoint.client second (.ok last)) :
      Probed endpoint cookie (first ++ second) (.ok (target, last))

theorem probed_of_yields {endpoint : Endpoint} {cookie : Option String}
    {exchanges : List Exchange} {result : Except Fault (String × Answer)}
    (held : (endpoint.probe cookie).Yields exchanges result) :
    Probed endpoint cookie exchanges result := by
  unfold Endpoint.probe at held
  obtain ⟨first, reached, second, rfl, asked, later⟩ := Dialogue.yields_bind_iff.mp held
  have sent := sent_of_yields asked
  cases reached with
  | error fault =>
      obtain ⟨rfl, rfl⟩ := Dialogue.yields_pure_iff.mp later
      rw [List.append_nil]
      exact .stopped sent
  | ok answer =>
      cases leads : redirection? answer with
      | none =>
          simp only [leads] at later
          obtain ⟨rfl, rfl⟩ := Dialogue.yields_pure_iff.mp later
          rw [List.append_nil]
          exact .direct sent leads
      | some location =>
          simp only [leads] at later
          cases resolved : redirectTarget endpoint.client.hosts endpoint.authUrl location with
          | error fault =>
              simp only [resolved] at later
              obtain ⟨rfl, rfl⟩ := Dialogue.yields_pure_iff.mp later
              rw [List.append_nil]
              exact .astray sent leads resolved
          | ok target =>
              simp only [resolved] at later
              obtain ⟨third, found, rest, rfl, askedAgain, last⟩ :=
                Dialogue.yields_bind_iff.mp (Dialogue.yields_say_iff.mp later)
              have sentAgain := sent_of_yields askedAgain
              cases found with
              | error fault =>
                  obtain ⟨rfl, rfl⟩ := Dialogue.yields_pure_iff.mp last
                  rw [List.append_nil]
                  exact .stoppedBeyond sent leads resolved sentAgain
              | ok answer =>
                  obtain ⟨rfl, rfl⟩ := Dialogue.yields_pure_iff.mp last
                  rw [List.append_nil]
                  exact .redirected sent leads resolved sentAgain

def judgement (username : String) : Except Fault Answer → Except Fault Login
  | .error fault => .error fault
  | .ok answer =>
      if answer.status = 200 then .ok ⟨username, .challengeResponse⟩
      else .error .invalidCredentials

/-- How a login can go, after its probe. -/
inductive Conversed (endpoint : Endpoint) (username password : String) :
    List Exchange → Except Fault Login → Prop
  | stopped {exchanges : List Exchange} {fault : Fault}
      (stopped : Probed endpoint none exchanges (.error fault)) :
      Conversed endpoint username password exchanges (.error fault)
  | trusted {exchanges : List Exchange} {address : String} {answer : Answer}
      (probed : Probed endpoint none exchanges (.ok (address, answer)))
      (trusted : answer.status = 200) :
      Conversed endpoint username password exchanges (.ok ⟨username, .alreadyTrusted⟩)
  | strange {exchanges : List Exchange} {address : String} {answer : Answer}
      (probed : Probed endpoint none exchanges (.ok (address, answer)))
      (untrusted : answer.status ≠ 200) (strange : answer.status ≠ 401) :
      Conversed endpoint username password exchanges
        (.error (.protocol (.unexpectedStatus answer.status address)))
  | unchallenged {exchanges : List Exchange} {address : String} {answer : Answer}
      {fault : Fault}
      (probed : Probed endpoint none exchanges (.ok (address, answer)))
      (unauthorized : answer.status = 401)
      (missing : Challenge.ofHeaders answer.headers = .error fault) :
      Conversed endpoint username password exchanges (.error fault)
  | posted {first second : List Exchange} {address : String} {answer : Answer}
      {challenge : Challenge} {reached : Except Fault Answer}
      (probed : Probed endpoint none first (.ok (address, answer)))
      (unauthorized : answer.status = 401)
      (challenged : Challenge.ofHeaders answer.headers = .ok challenge)
      (posted : Sent .post address (Http.Cookie.returned? answer.headers)
        (some (loginDocument username (challenge.respond username password)))
        endpoint.client second reached) :
      Conversed endpoint username password (first ++ second) (judgement username reached)

theorem answerChallenge_yields {endpoint : Endpoint} {address : String}
    {headers : Http.Headers} {challenge : Challenge} {username password : String}
    {exchanges : List Exchange} {result : Except Fault Login}
    (held : (endpoint.answerChallenge address headers challenge username password).Yields
      exchanges result) :
    ∃ reached, Sent .post address (Http.Cookie.returned? headers)
        (some (loginDocument username (challenge.respond username password)))
        endpoint.client exchanges reached ∧
      result = judgement username reached := by
  unfold Endpoint.answerChallenge at held
  obtain ⟨first, reached, second, rfl, asked, later⟩ := Dialogue.yields_bind_iff.mp held
  have sent := sent_of_yields asked
  cases reached with
  | error fault =>
      obtain ⟨rfl, rfl⟩ := Dialogue.yields_pure_iff.mp later
      rw [List.append_nil]
      exact ⟨_, sent, rfl⟩
  | ok answer =>
      by_cases accepted : answer.status = 200
      · simp only [accepted, if_true] at later
        obtain ⟨rfl, rfl⟩ := Dialogue.yields_pure_iff.mp later
        rw [List.append_nil]
        exact ⟨_, sent, by simp only [judgement, accepted, if_true]⟩
      · simp only [accepted, if_false] at later
        replace later := Dialogue.yields_say_iff.mp later
        obtain ⟨rfl, rfl⟩ := Dialogue.yields_pure_iff.mp later
        rw [List.append_nil]
        exact ⟨_, sent, by simp only [judgement, accepted, if_false]⟩

theorem conversed_of_yields {endpoint : Endpoint} {username password : String}
    {exchanges : List Exchange} {result : Except Fault Login}
    (held : (endpoint.login username password).Yields exchanges result) :
    Conversed endpoint username password exchanges result := by
  unfold Endpoint.login at held
  obtain ⟨first, reached, second, rfl, asked, later⟩ := Dialogue.yields_bind_iff.mp held
  have probed := probed_of_yields asked
  cases reached with
  | error fault =>
      obtain ⟨rfl, rfl⟩ := Dialogue.yields_pure_iff.mp later
      rw [List.append_nil]
      exact .stopped probed
  | ok place =>
      obtain ⟨address, answer⟩ := place
      by_cases trusted : answer.status = 200
      · simp only [trusted, if_true] at later
        replace later := Dialogue.yields_say_iff.mp later
        obtain ⟨rfl, rfl⟩ := Dialogue.yields_pure_iff.mp later
        rw [List.append_nil]
        exact .trusted probed trusted
      by_cases unauthorized : answer.status = 401
      · simp only [unauthorized, if_true] at later
        cases challenged : Challenge.ofHeaders answer.headers with
        | error fault =>
            simp only [challenged] at later
            obtain ⟨rfl, rfl⟩ := Dialogue.yields_pure_iff.mp later
            rw [List.append_nil]
            exact .unchallenged probed unauthorized challenged
        | ok challenge =>
            simp only [challenged] at later
            obtain ⟨reached, posted, rfl⟩ := answerChallenge_yields later
            exact .posted probed unauthorized challenged posted
      · simp only [trusted, unauthorized, if_false] at later
        obtain ⟨rfl, rfl⟩ := Dialogue.yields_pure_iff.mp later
        rw [List.append_nil]
        exact .strange probed trusted unauthorized

end Router

end RouterGate
