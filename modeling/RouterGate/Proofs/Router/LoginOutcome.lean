import RouterGate.Proofs.Router.LoginRequests
/-!
What a login comes to, read off what was exchanged with the router. There are six classes of
results, and each has a sign of its own in the exchanges.
-/
namespace RouterGate.Router

/-- The answer that decides about a login: that of the login address, or that of the place where
the login address sends on to. -/
def ProbeAnswer (exchanges : List Exchange) (answer : Answer) : Prop :=
  ∃ first hop, (gets exchanges)[0]? = some first ∧ first.reply.delivery = .answered hop ∧
    ((∀ location, ¬hop.LeadsTo location) ∧ answer = hop ∨
      (∃ location, hop.LeadsTo location) ∧
        ∃ second, (gets exchanges)[1]? = some second ∧ second.reply.delivery = .answered answer)

def PostAnswer (exchanges : List Exchange) (answer : Answer) : Prop :=
  ∃ post ∈ exchanges, post.request.method = .post ∧ post.reply.delivery = .answered answer

def IsSilent (exchange : Exchange) : Prop :=
  ∀ answer, exchange.reply.delivery ≠ .answered answer

/-- The login address sends on to what is no address. -/
def Astray (endpoint : Endpoint) (exchanges : List Exchange) : Prop :=
  ∃ first hop location, (gets exchanges)[0]? = some first ∧
    first.reply.delivery = .answered hop ∧ hop.LeadsTo location ∧
    ∀ target, ¬Resolves endpoint.client.hosts endpoint.authUrl location target

/-- There is nothing to be asked at the login address, or where it sends on to. -/
def Unaskable (endpoint : Endpoint) (exchanges : List Exchange) : Prop :=
  ¬IsAskable endpoint.client.hosts endpoint.authUrl ∨
    ∃ first hop target, (gets exchanges)[0]? = some first ∧
      first.reply.delivery = .answered hop ∧
      hop.RedirectsTo endpoint.client.hosts endpoint.authUrl target ∧
      ¬IsAskable endpoint.client.hosts target

theorem not_isSilent {reply : Reply} {answer : Answer}
    (arrived : reply.delivery = .answered answer) (request : Request) :
    ¬IsSilent ⟨request, reply⟩ := by
  intro silent
  exact silent answer arrived

theorem redirectTarget_error {hosts : Url.HostMapping} {address location : String}
    {fault : Fault} (askable : IsAskable hosts address)
    (unresolved : redirectTarget hosts address location = .error fault) :
    ∃ cause, fault = .protocol cause := by
  obtain ⟨url, parsed, -⟩ := askable
  unfold redirectTarget at unresolved
  rw [parsed] at unresolved
  cases joined : Url.join hosts url location with
  | error defect =>
      simp only [joined, Except.error.injEq] at unresolved
      exact ⟨_, unresolved.symm⟩
  | ok place => simp [joined] at unresolved

section FirstAnswer

variable {endpoint : Endpoint} {exchanges : List Exchange} {first : Exchange} {hop : Answer}

theorem probeAnswer_iff_of_stays (asked : (gets exchanges)[0]? = some first)
    (arrived : first.reply.delivery = .answered hop) (stays : redirection? hop = none)
    {answer : Answer} : ProbeAnswer exchanges answer ↔ answer = hop := by
  simp [ProbeAnswer, asked, arrived, leadsTo_iff, stays]

theorem probeAnswer_iff_of_leads (asked : (gets exchanges)[0]? = some first)
    (arrived : first.reply.delivery = .answered hop) {location : String}
    (leads : redirection? hop = some location) {answer : Answer} :
    ProbeAnswer exchanges answer ↔
      ∃ second, (gets exchanges)[1]? = some second ∧
        second.reply.delivery = .answered answer := by
  simp [ProbeAnswer, asked, arrived, leadsTo_iff, leads]

theorem not_astray_of_stays (asked : (gets exchanges)[0]? = some first)
    (arrived : first.reply.delivery = .answered hop) (stays : redirection? hop = none) :
    ¬Astray endpoint exchanges := by
  simp [Astray, asked, arrived, leadsTo_iff, stays]

theorem astray_iff_of_leads (asked : (gets exchanges)[0]? = some first)
    (arrived : first.reply.delivery = .answered hop) {location : String}
    (leads : redirection? hop = some location) :
    Astray endpoint exchanges ↔
      ∀ target, redirectTarget endpoint.client.hosts endpoint.authUrl location ≠ .ok target := by
  simp [Astray, asked, arrived, leadsTo_iff, leads, resolves_iff]

theorem unaskable_iff_of_stays (asked : (gets exchanges)[0]? = some first)
    (arrived : first.reply.delivery = .answered hop) (stays : redirection? hop = none) :
    Unaskable endpoint exchanges ↔ ¬IsAskable endpoint.client.hosts endpoint.authUrl := by
  simp [Unaskable, Answer.RedirectsTo, asked, arrived, leadsTo_iff, stays]

theorem unaskable_iff_of_leads (asked : (gets exchanges)[0]? = some first)
    (arrived : first.reply.delivery = .answered hop) {location : String}
    (leads : redirection? hop = some location) :
    Unaskable endpoint exchanges ↔ ¬IsAskable endpoint.client.hosts endpoint.authUrl ∨
      ∃ target, redirectTarget endpoint.client.hosts endpoint.authUrl location = .ok target ∧
        ¬IsAskable endpoint.client.hosts target := by
  simp [Unaskable, Answer.RedirectsTo, asked, arrived, leadsTo_iff, leads, resolves_iff]

end FirstAnswer

/-- What the exchanges of a probe tell about its result. -/
structure ProbeReading (endpoint : Endpoint) (exchanges : List Exchange)
    (result : Except Fault (String × Answer)) : Prop where
  answered : ∀ answer, ProbeAnswer exchanges answer ↔ ∃ address, result = .ok (address, answer)
  protocol : Astray endpoint exchanges ↔ ∃ cause, result = .error (.protocol cause)
  unreachable : (∃ exchange ∈ exchanges, IsSilent exchange) ↔
    ∃ cause, result = .error (.unreachable cause)
  internal : Unaskable endpoint exchanges ↔ ∃ cause, result = .error (.internal cause)

theorem Probed.reading {endpoint : Endpoint} {cookie : Option String}
    {exchanges : List Exchange} {result : Except Fault (String × Answer)}
    (probed : Probed endpoint cookie exchanges result)
    (legal : (cookie.all fun text => Http.Header.isLegalValue (Bytes.ofString text)) = true) :
    ProbeReading endpoint exchanges result := by
  have onlyGets := (probed.asked legal).gets_eq
  cases probed with
  | stopped stopped =>
      cases stopped with
      | unbuilt unbuilt =>
          have unaskable := Request.not_isAskable_of_build legal unbuilt
          constructor <;> simp [ProbeAnswer, Astray, Unaskable, onlyGets, unaskable]
      | lost built silent =>
          have askable := Request.isAskable_of_build built
          have unanswered := Delivery.ne_answered_of_outage? silent
          constructor <;>
            simp [ProbeAnswer, Astray, Unaskable, IsSilent, onlyGets, askable, unanswered]
  | direct answered stays =>
      obtain ⟨exchange, rfl, built, arrived⟩ := answered.of_ok
      have askable := Request.isAskable_of_build built
      have asked := congrArg (·[0]?) onlyGets
      constructor
      · simp [probeAnswer_iff_of_stays asked arrived stays, eq_comm]
      · simp [not_astray_of_stays asked arrived stays]
      · simp [IsSilent, arrived]
      · simp [unaskable_iff_of_stays asked arrived stays, askable]
  | astray answered leads unresolved =>
      obtain ⟨exchange, rfl, built, arrived⟩ := answered.of_ok
      have askable := Request.isAskable_of_build built
      obtain ⟨cause, rfl⟩ := redirectTarget_error askable unresolved
      have asked := congrArg (·[0]?) onlyGets
      constructor
      · simp [probeAnswer_iff_of_leads asked arrived leads, onlyGets]
      · simp [astray_iff_of_leads asked arrived leads, unresolved]
      · simp [IsSilent, arrived]
      · simp [unaskable_iff_of_leads asked arrived leads, askable, unresolved]
  | stoppedBeyond answered leads resolved stopped =>
      obtain ⟨exchange, rfl, built, arrived⟩ := answered.of_ok
      have askable := Request.isAskable_of_build built
      rw [List.singleton_append] at onlyGets ⊢
      have asked := congrArg (·[0]?) onlyGets
      cases stopped with
      | unbuilt unbuilt =>
          have unaskable := Request.not_isAskable_of_build legal unbuilt
          constructor
          · simp [probeAnswer_iff_of_leads asked arrived leads, onlyGets]
          · simp [astray_iff_of_leads asked arrived leads, resolved]
          · simp [IsSilent, arrived]
          · simp [unaskable_iff_of_leads asked arrived leads, resolved, unaskable]
      | lost builtBeyond silent =>
          have askableBeyond := Request.isAskable_of_build builtBeyond
          have unanswered := Delivery.ne_answered_of_outage? silent
          constructor
          · simp [probeAnswer_iff_of_leads asked arrived leads, onlyGets, unanswered]
          · simp [astray_iff_of_leads asked arrived leads, resolved]
          · simp [IsSilent, unanswered]
          · simp [unaskable_iff_of_leads asked arrived leads, resolved, askable, askableBeyond]
  | redirected answered leads resolved beyond =>
      obtain ⟨exchange, rfl, built, arrived⟩ := answered.of_ok
      obtain ⟨second, rfl, builtBeyond, arrivedBeyond⟩ := beyond.of_ok
      have askable := Request.isAskable_of_build built
      have askableBeyond := Request.isAskable_of_build builtBeyond
      rw [List.singleton_append] at onlyGets ⊢
      have asked := congrArg (·[0]?) onlyGets
      constructor
      · simp [probeAnswer_iff_of_leads asked arrived leads, onlyGets, arrivedBeyond]
      · simp [astray_iff_of_leads asked arrived leads, resolved]
      · simp [IsSilent, arrived, arrivedBeyond]
      · simp [unaskable_iff_of_leads asked arrived leads, resolved, askable, askableBeyond]

theorem Sent.fault_cases {method : Method} {address : String} {cookie : Option String}
    {body : Option Bytes} {client : Client} {exchanges : List Exchange} {fault : Fault}
    (stopped : Sent method address cookie body client exchanges (.error fault)) :
    (∃ cause, fault = .unreachable cause) ∨ ∃ cause, fault = .internal cause := by
  cases stopped with
  | unbuilt unbuilt => exact .inr ⟨_, rfl⟩
  | lost built silent => exact .inl ⟨_, rfl⟩

theorem Probed.fault_cases {endpoint : Endpoint} {cookie : Option String}
    {exchanges : List Exchange} {fault : Fault}
    (stopped : Probed endpoint cookie exchanges (.error fault)) :
    (∃ cause, fault = .protocol cause) ∨ (∃ cause, fault = .unreachable cause) ∨
      ∃ cause, fault = .internal cause := by
  cases stopped with
  | stopped stopped => exact .inr stopped.fault_cases
  | astray answered leads unresolved =>
      obtain ⟨exchange, rfl, built, -⟩ := answered.of_ok
      exact .inl (redirectTarget_error (Request.isAskable_of_build built) unresolved)
  | stoppedBeyond answered leads resolved stopped => exact .inr stopped.fault_cases

theorem Probed.ne_invalidCredentials {endpoint : Endpoint} {cookie : Option String}
    {exchanges : List Exchange} {fault : Fault}
    (stopped : Probed endpoint cookie exchanges (.error fault)) :
    fault ≠ .invalidCredentials := by
  intro same
  subst same
  obtain ⟨cause, impossible⟩ | ⟨cause, impossible⟩ | ⟨cause, impossible⟩ := stopped.fault_cases
  all_goals cases impossible

theorem not_postAnswer_of_gets {exchanges : List Exchange} (onlyGets : gets exchanges = exchanges)
    (answer : Answer) : ¬PostAnswer exchanges answer := by
  intro posted
  obtain ⟨post, sent, posts, -⟩ := posted
  exact ne_post_of_gets onlyGets sent posts

section Post

variable {endpoint : Endpoint} {exchanges : List Exchange} {request : Request}
  {reply : Reply}

theorem probeAnswer_concat_iff (onlyGets : gets exchanges = exchanges)
    (posts : request.method = .post) {answer : Answer} :
    ProbeAnswer (exchanges ++ [⟨request, reply⟩]) answer ↔ ProbeAnswer exchanges answer := by
  simp only [ProbeAnswer, gets_concat onlyGets ⟨request, reply⟩ posts, onlyGets]

theorem astray_concat_iff (onlyGets : gets exchanges = exchanges)
    (posts : request.method = .post) :
    Astray endpoint (exchanges ++ [⟨request, reply⟩]) ↔ Astray endpoint exchanges := by
  simp only [Astray, gets_concat onlyGets ⟨request, reply⟩ posts, onlyGets]

theorem unaskable_concat_iff (onlyGets : gets exchanges = exchanges)
    (posts : request.method = .post) :
    Unaskable endpoint (exchanges ++ [⟨request, reply⟩]) ↔ Unaskable endpoint exchanges := by
  simp only [Unaskable, gets_concat onlyGets ⟨request, reply⟩ posts, onlyGets]

theorem postAnswer_concat_iff (onlyGets : gets exchanges = exchanges)
    (posts : request.method = .post) {answer : Answer} :
    PostAnswer (exchanges ++ [⟨request, reply⟩]) answer ↔ reply.delivery = .answered answer := by
  constructor
  · intro posted
    obtain ⟨other, sent, posts', arrived⟩ := posted
    rcases List.mem_append.mp sent with earlier | isPost
    · exact absurd ⟨other, earlier, posts', arrived⟩ (not_postAnswer_of_gets onlyGets answer)
    · cases List.mem_singleton.mp isPost
      exact arrived
  · intro arrived
    exact ⟨_, List.mem_append_right _ List.mem_cons_self, posts, arrived⟩

end Post

def Answer.IsUnfit (answer : Answer) : Prop :=
  (answer.status ≠ 200 ∧ answer.status ≠ 401) ∨
    (answer.status = 401 ∧ ∀ realm nonce, ¬answer.Challenges realm nonce)

theorem Answer.not_isUnfit {answer : Answer} {realm nonce : String}
    (challenges : answer.Challenges realm nonce) : ¬answer.IsUnfit := by
  intro unfit
  rcases unfit with ⟨-, other⟩ | ⟨-, quiet⟩
  · exact other challenges.1
  · exact quiet realm nonce challenges

theorem judgement_eq_ok_iff {username : String} {reached : Except Fault Answer} {login : Login} :
    judgement username reached = .ok login ↔
      login = ⟨username, .challengeResponse⟩ ∧
        ∃ answer, reached = .ok answer ∧ answer.status = 200 := by
  unfold judgement
  cases reached with
  | error fault => simp
  | ok answer =>
      by_cases accepted : answer.status = 200
      · simp [accepted, eq_comm]
      · simp [accepted]

theorem judgement_eq_error_iff {username : String} {reached : Except Fault Answer}
    {fault : Fault} :
    judgement username reached = .error fault ↔
      reached = .error fault ∨
        fault = .invalidCredentials ∧ ∃ answer, reached = .ok answer ∧ answer.status ≠ 200 := by
  unfold judgement
  cases reached with
  | error fault => simp
  | ok answer =>
      by_cases accepted : answer.status = 200
      · simp [accepted]
      · simp [accepted, eq_comm]

/-- What the exchanges of a login tell about its result. -/
structure LoginReading (endpoint : Endpoint) (username : String) (exchanges : List Exchange)
    (result : Except Fault Login) : Prop where
  trusted : result = .ok ⟨username, .alreadyTrusted⟩ ↔
    ∃ answer, ProbeAnswer exchanges answer ∧ answer.status = 200
  proved : result = .ok ⟨username, .challengeResponse⟩ ↔
    ∃ answer, PostAnswer exchanges answer ∧ answer.status = 200
  rejected : result = .error .invalidCredentials ↔
    ∃ answer, PostAnswer exchanges answer ∧ answer.status ≠ 200
  protocol : (∃ cause, result = .error (.protocol cause)) ↔
    (∃ answer, ProbeAnswer exchanges answer ∧ answer.IsUnfit) ∨ Astray endpoint exchanges
  unreachable : (∃ cause, result = .error (.unreachable cause)) ↔
    ∃ exchange ∈ exchanges, IsSilent exchange
  internal : (∃ cause, result = .error (.internal cause)) ↔ Unaskable endpoint exchanges

theorem Conversed.reading {endpoint : Endpoint} {username password : String}
    {exchanges : List Exchange} {result : Except Fault Login}
    (conversed : Conversed endpoint username password exchanges result) :
    LoginReading endpoint username exchanges result := by
  cases conversed with
  | stopped stopped =>
      have noPost := not_postAnswer_of_gets (stopped.asked rfl).gets_eq
      obtain ⟨answered, protocol, unreachable, internal⟩ := stopped.reading rfl
      constructor
      · simp [answered]
      · simp [noPost]
      · simp [noPost, stopped.ne_invalidCredentials]
      · simp [answered, protocol]
      · simp [unreachable]
      · simp [internal]
  | trusted probed trusted =>
      have noPost := not_postAnswer_of_gets (probed.asked rfl).gets_eq
      obtain ⟨answered, protocol, unreachable, internal⟩ := probed.reading rfl
      constructor
      · simp [answered, trusted]
      · simp [noPost]
      · simp [noPost]
      · simp [answered, protocol, Answer.IsUnfit, trusted]
      · simp [unreachable]
      · simp [internal]
  | strange probed untrusted strange =>
      have noPost := not_postAnswer_of_gets (probed.asked rfl).gets_eq
      obtain ⟨answered, protocol, unreachable, internal⟩ := probed.reading rfl
      constructor
      · simp [answered, untrusted]
      · simp [noPost]
      · simp [noPost]
      · simp [answered, protocol, Answer.IsUnfit, untrusted, strange]
      · simp [unreachable]
      · simp [internal]
  | unchallenged probed unauthorized missing =>
      have noPost := not_postAnswer_of_gets (probed.asked rfl).gets_eq
      obtain ⟨answered, protocol, unreachable, internal⟩ := probed.reading rfl
      obtain ⟨cause, rfl⟩ := ofHeaders_error missing
      constructor
      · simp [answered, unauthorized]
      · simp [noPost]
      · simp [noPost]
      · simp [answered, protocol, Answer.IsUnfit, unauthorized, challenges_iff, missing]
      · simp [unreachable]
      · simp [internal]
  | posted probed unauthorized challenged posted =>
      have onlyGets := (probed.asked rfl).gets_eq
      obtain ⟨answered, protocol, unreachable, internal⟩ := probed.reading rfl
      obtain ⟨-, last, -, built, -⟩ := probed.of_ok
      have fit := Answer.not_isUnfit (challenges_iff.mpr ⟨unauthorized, challenged⟩)
      cases posted with
      | unbuilt unbuilt =>
          -- The same address has just been asked, and cookies from headers are legal in headers.
          apply absurd (Request.isAskable_of_build built)
          exact Request.not_isAskable_of_build (Http.Cookie.isLegalValue_returned? _) unbuilt
      | answered builtPost arrived =>
          have posts := Request.method_of_build builtPost
          have loud := not_isSilent arrived
          constructor
          · simp [judgement_eq_ok_iff, probeAnswer_concat_iff onlyGets posts, answered,
              unauthorized]
          · simp [judgement_eq_ok_iff, postAnswer_concat_iff onlyGets posts, arrived]
          · simp [judgement_eq_error_iff, postAnswer_concat_iff onlyGets posts, arrived]
          · simp [judgement_eq_error_iff, probeAnswer_concat_iff onlyGets posts,
              astray_concat_iff onlyGets posts, answered, protocol, fit]
          · simp [judgement_eq_error_iff, or_and_right, exists_or, unreachable, loud]
          · simp [judgement_eq_error_iff, unaskable_concat_iff onlyGets posts, internal]
      | lost builtPost silent =>
          have posts := Request.method_of_build builtPost
          have unanswered := Delivery.ne_answered_of_outage? silent
          constructor
          · simp [judgement_eq_ok_iff, probeAnswer_concat_iff onlyGets posts, answered,
              unauthorized]
          · simp [judgement_eq_ok_iff, postAnswer_concat_iff onlyGets posts, unanswered]
          · simp [judgement_eq_error_iff, postAnswer_concat_iff onlyGets posts, unanswered]
          · simp [judgement_eq_error_iff, probeAnswer_concat_iff onlyGets posts,
              astray_concat_iff onlyGets posts, answered, protocol, fit]
          · simp [judgement_eq_error_iff, or_and_right, exists_or, IsSilent, unanswered]
          · simp [judgement_eq_error_iff, unaskable_concat_iff onlyGets posts, internal]

namespace Conversed

variable {endpoint : Endpoint} {username password : String} {exchanges : List Exchange}

theorem of_ok {login : Login}
    (conversed : Conversed endpoint username password exchanges (.ok login)) :
    (login = ⟨username, .alreadyTrusted⟩ ∧ ∃ address answer,
        Probed endpoint none exchanges (.ok (address, answer)) ∧ answer.status = 200) ∨
      (login = ⟨username, .challengeResponse⟩ ∧
        ∃ before post address cookie realm nonce answer, exchanges = before ++ [post] ∧
          Request.build .post address cookie
            (some (responseDocument username password realm nonce)) endpoint.client =
              .ok post.request ∧
          post.reply.delivery = .answered answer ∧ answer.status = 200) := by
  generalize held : (Except.ok login : Except Fault Login) = result at conversed
  cases conversed with
  | stopped stopped => cases held
  | trusted probed trusted =>
      cases held
      exact .inl ⟨rfl, _, _, probed, trusted⟩
  | strange probed untrusted strange => cases held
  | unchallenged probed unauthorized missing => cases held
  | posted probed unauthorized challenged posted =>
      obtain ⟨same, answer, rfl, accepted⟩ := judgement_eq_ok_iff.mp held.symm
      obtain ⟨post, rfl, built, arrived⟩ := posted.of_ok
      rw [loginDocument_respond] at built
      exact .inr ⟨same, _, post, _, _, _, _, answer, rfl, built, arrived, accepted⟩

theorem username_eq {login : Login}
    (conversed : Conversed endpoint username password exchanges (.ok login)) :
    login.username = username := by
  rcases conversed.of_ok with ⟨rfl, -⟩ | ⟨rfl, -⟩
  · rfl
  · rfl

theorem fault_cases {fault : Fault}
    (conversed : Conversed endpoint username password exchanges (.error fault)) :
    fault = .invalidCredentials ∨ (∃ cause, fault = .protocol cause) ∨
      (∃ cause, fault = .unreachable cause) ∨ ∃ cause, fault = .internal cause := by
  generalize held : (Except.error fault : Except Fault Login) = result at conversed
  cases conversed with
  | stopped stopped =>
      cases held
      exact .inr stopped.fault_cases
  | trusted probed trusted => cases held
  | strange probed untrusted strange =>
      cases held
      exact .inr (.inl ⟨_, rfl⟩)
  | unchallenged probed unauthorized missing =>
      cases held
      exact .inr (.inl (ofHeaders_error missing))
  | posted probed unauthorized challenged posted =>
      rcases judgement_eq_error_iff.mp held.symm with failed | ⟨rejected, -⟩
      · rw [failed] at posted
        exact .inr (.inr posted.fault_cases)
      · exact .inl rejected

theorem gets_eq_of_trusted
    (conversed : Conversed endpoint username password exchanges
      (.ok ⟨username, .alreadyTrusted⟩)) :
    gets exchanges = exchanges := by
  rcases conversed.of_ok with ⟨-, address, answer, probed, -⟩ | ⟨impossible, -⟩
  · exact (probed.asked rfl).gets_eq
  · cases impossible

theorem internal_of_nil {result : Except Fault Login}
    (conversed : Conversed endpoint username password [] result) :
    ∃ cause, result = .error (.internal cause) := by
  apply conversed.reading.internal.mpr
  exact .inl (conversed.loginExchanges.eq_nil_iff.mp rfl)

end Conversed

/-- The router's last word was a plain yes. -/
def Confirmed (exchanges : List Exchange) : Prop :=
  ∃ last answer, exchanges.getLast? = some last ∧ last.reply.delivery = .answered answer ∧
    answer.status = 200

/-- The plain yes came from a router that trusts the connection already, or it was the answer to
a posted response for this password. -/
inductive Vouched (username password : String) (exchanges : List Exchange) : Prop
  | trusted {last : Exchange} {answer : Answer} (isLast : exchanges.getLast? = some last)
      (gets : last.request.method = .get) (arrived : last.reply.delivery = .answered answer)
      (accepted : answer.status = 200) :
      Vouched username password exchanges
  | proved {last : Exchange} {answer : Answer} {realm nonce : String}
      (isLast : exchanges.getLast? = some last) (posts : last.request.method = .post)
      (responds : last.request.body = some (responseDocument username password realm nonce))
      (arrived : last.reply.delivery = .answered answer) (accepted : answer.status = 200) :
      Vouched username password exchanges

theorem Vouched.confirmed {username password : String} {exchanges : List Exchange}
    (vouched : Vouched username password exchanges) : Confirmed exchanges := by
  cases vouched with
  | trusted isLast gets arrived accepted => exact ⟨_, _, isLast, arrived, accepted⟩
  | proved isLast posts responds arrived accepted => exact ⟨_, _, isLast, arrived, accepted⟩

theorem Conversed.vouched {endpoint : Endpoint} {username password : String}
    {exchanges : List Exchange} {login : Login}
    (conversed : Conversed endpoint username password exchanges (.ok login)) :
    Vouched username password exchanges := by
  rcases conversed.of_ok with ⟨-, address, answer, probed, trusted⟩ |
    ⟨-, before, post, address, cookie, realm, nonce, answer, rfl, built, arrived, accepted⟩
  · obtain ⟨before, last, rfl, asked, arrived⟩ := probed.of_ok
    exact .trusted List.getLast?_concat (Request.method_of_build asked) arrived trusted
  · exact .proved List.getLast?_concat (Request.method_of_build built)
      (Request.body_of_build built) arrived accepted

def verdictOf : Except Fault Login → Except Fault Bool
  | .ok _ => .ok true
  | .error .invalidCredentials => .ok false
  | .error fault => .error fault

theorem verdictOf_eq_true_iff {result : Except Fault Login} :
    verdictOf result = .ok true ↔ ∃ login, result = .ok login := by
  cases result with
  | ok login => simp [verdictOf]
  | error fault => cases fault <;> simp [verdictOf]

theorem verdictOf_eq_false_iff {result : Except Fault Login} :
    verdictOf result = .ok false ↔ result = .error .invalidCredentials := by
  cases result with
  | ok login => simp [verdictOf]
  | error fault => cases fault <;> simp [verdictOf]

theorem verdictOf_eq_error_iff {result : Except Fault Login} {fault : Fault} :
    verdictOf result = .error fault ↔ result = .error fault ∧ fault ≠ .invalidCredentials := by
  cases result with
  | ok login => simp [verdictOf]
  | error cause =>
      cases cause <;> simp [verdictOf]
      all_goals
        intro same
        subst same
        simp

theorem verify_eq (endpoint : Endpoint) (username password : String) :
    endpoint.verify username password =
      (endpoint.login username password).bind fun result => .done (verdictOf result) := by
  change (endpoint.login username password).bind _ = _
  congr 1
  funext result
  cases result with
  | ok login => rfl
  | error fault => cases fault <;> rfl

theorem run_verify (endpoint : Endpoint) (username password : String) (router : Behavior)
    (past : List Exchange) :
    let outcome := (endpoint.login username password).run router past
    let asked := (endpoint.verify username password).run router past
    asked.value = verdictOf outcome.value ∧ asked.exchanges = outcome.exchanges := by
  simp [verify_eq, Dialogue.run_bind]

theorem run_verifyOnce (endpoint : Endpoint) (username password : String) (router : Behavior)
    (past : List Exchange) :
    let outcome := (endpoint.login username password).run router past
    let asked := (endpoint.verifyOnce username password).run router past
    (asked.value = true ↔ verdictOf outcome.value = .ok true) ∧
      asked.exchanges = outcome.exchanges := by
  intro outcome asked
  have valued : asked = _ := Dialogue.run_bind router past (endpoint.verify username password) _
  obtain ⟨value, exchanges⟩ := run_verify endpoint username password router past
  rw [valued]
  simp only [value, exchanges]
  cases verdict : verdictOf outcome.value with
  | ok valid => simp [pure, outcome]
  | error fault => simp [Dialogue.say, pure, outcome, bind, Dialogue.bind]

/-- The classes of results never blur: each has its own sign in what was exchanged, whatever the
router does, and asking about a password only reads a wrong one as a no. -/
theorem login_outcome (address : String) (client : Client) (username password : String)
    (router : Behavior) (past : List Exchange) :
    let endpoint := Endpoint.ofAddress address client
    let outcome := (endpoint.login username password).run router past
    let exchanges := outcome.exchanges
    let verified := (endpoint.verify username password).run router past
    let verifiedOnce := (endpoint.verifyOnce username password).run router past
    ((∃ login, outcome.value = .ok login ∧ login.method = .alreadyTrusted) ↔
        ∃ answer, ProbeAnswer exchanges answer ∧ answer.status = 200) ∧
      ((∃ login, outcome.value = .ok login ∧ login.method = .alreadyTrusted) →
        ∀ exchange ∈ exchanges, exchange.request.method ≠ .post) ∧
      ((∃ login, outcome.value = .ok login ∧ login.method = .challengeResponse) ↔
        ∃ answer, PostAnswer exchanges answer ∧ answer.status = 200) ∧
      (∀ login, outcome.value = .ok login → login.username = username) ∧
      (outcome.value = .error .invalidCredentials ↔
        ∃ answer, PostAnswer exchanges answer ∧ answer.status ≠ 200) ∧
      ((∃ cause, outcome.value = .error (.protocol cause)) ↔
        (∃ answer, ProbeAnswer exchanges answer ∧ answer.IsUnfit) ∨
          Astray endpoint exchanges) ∧
      ((∃ cause, outcome.value = .error (.unreachable cause)) ↔
        ∃ exchange ∈ exchanges, IsSilent exchange) ∧
      ((∃ cause, outcome.value = .error (.internal cause)) ↔ Unaskable endpoint exchanges) ∧
      (∀ fault, outcome.value = .error fault →
        fault = .invalidCredentials ∨ (∃ cause, fault = .protocol cause) ∨
          (∃ cause, fault = .unreachable cause) ∨ ∃ cause, fault = .internal cause) ∧
      verified.exchanges = exchanges ∧
      (verified.value = .ok true ↔ ∃ login, outcome.value = .ok login) ∧
      (verified.value = .ok false ↔ outcome.value = .error .invalidCredentials) ∧
      (∀ fault, verified.value = .error fault ↔
        outcome.value = .error fault ∧ fault ≠ .invalidCredentials) ∧
      verifiedOnce.exchanges = exchanges ∧
      (verifiedOnce.value = true ↔ ∃ login, outcome.value = .ok login) := by
  intro endpoint outcome exchanges verified verifiedOnce
  have conversed : Conversed endpoint username password exchanges outcome.value :=
    conversed_of_yields (Dialogue.yields_run router past _)
  have reading := conversed.reading
  have ofMethod (method : LoginMethod) :
      (∃ login, outcome.value = .ok login ∧ login.method = method) ↔
        outcome.value = .ok ⟨username, method⟩ := by
    constructor
    · intro logged
      obtain ⟨login, came, rfl⟩ := logged
      rw [came] at conversed ⊢
      rw [← conversed.username_eq]
    · intro came
      exact ⟨_, came, rfl⟩
  obtain ⟨verdict, same⟩ := run_verify endpoint username password router past
  obtain ⟨verdictOnce, sameOnce⟩ := run_verifyOnce endpoint username password router past
  refine ⟨(ofMethod _).trans reading.trusted, ?_, (ofMethod _).trans reading.proved, ?_,
    reading.rejected, reading.protocol, reading.unreachable, reading.internal, ?_, same, ?_, ?_,
    ?_, sameOnce, verdictOnce.trans verdictOf_eq_true_iff⟩
  · rw [ofMethod]
    intro trusted post sent
    rw [trusted] at conversed
    exact ne_post_of_gets conversed.gets_eq_of_trusted sent
  · intro login came
    rw [came] at conversed
    exact conversed.username_eq
  · intro fault came
    rw [came] at conversed
    exact conversed.fault_cases
  · rw [verdict]
    exact verdictOf_eq_true_iff
  · rw [verdict]
    exact verdictOf_eq_false_iff
  · intro fault
    rw [verdict]
    exact verdictOf_eq_error_iff

end RouterGate.Router
