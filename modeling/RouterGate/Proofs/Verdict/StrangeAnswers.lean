import RouterGate.Proofs.Http.TextValues
import RouterGate.Proofs.Since
import RouterGate.Proofs.Verdict.Access
import RouterGate.Proofs.Verdict.Judging
/-!
What is made of a router that does not keep to the protocol. If it was asked about a password, its
answer is a fault: the request is denied, and the router is asked again the next time. If it was
asked about cookies, whatever is no plain yes is taken for a no, and the no is kept.
-/
namespace RouterGate

open Router.Dialogue

namespace Router

/-- An answer that the protocol knows nothing of. -/
def Answer.IsStrange (answer : Answer) : Prop :=
  answer.status ≠ 200 ∧ answer.status ≠ 401

/-- The last answer to a question, though other questions may have been asked in vain after it. -/
def LastAnswer (exchanges : List Exchange) (answer : Answer) : Prop :=
  HoldsSince (fun asked => asked.reply.delivery = .answered answer)
    (fun later => ¬IsSilent later) (gets exchanges)

namespace LastAnswer

variable {exchanges : List Exchange} {answer : Answer}

theorem ne_nil (isLast : LastAnswer exchanges answer) : exchanges ≠ [] := by
  intro silent
  rw [silent] at isLast
  exact not_holdsSince_nil isLast

theorem eq_of_answered (isLast : LastAnswer exchanges answer) {before : List Exchange}
    {last : Exchange} {other : Answer} (asked : gets exchanges = before ++ [last])
    (arrived : last.reply.delivery = .answered other) : answer = other := by
  rw [LastAnswer, asked, holdsSince_concat_iff] at isLast
  rcases isLast with arrived' | ⟨-, unheard⟩
  · cases arrived'.symm.trans arrived
    rfl
  · exact absurd (not_isSilent arrived last.request) unheard

end LastAnswer

theorem Sent.gets_eq_nil {address : String} {cookie : Option String} {body : Option Bytes}
    {client : Client} {exchanges : List Exchange} {result : Except Fault Answer}
    (sent : Sent .post address cookie body client exchanges result) : gets exchanges = [] := by
  cases sent with
  | unbuilt unbuilt => rfl
  | answered built arrived => simp [gets, Request.method_of_build built]
  | lost built silent => simp [gets, Request.method_of_build built]

theorem Probed.lastAnswer_eq {endpoint : Endpoint} {cookie : Option String}
    {exchanges : List Exchange} {address : String} {answer other : Answer}
    (probed : Probed endpoint cookie exchanges (.ok (address, answer)))
    (legal : (cookie.all fun text => Http.Header.isLegalValue (Bytes.ofString text)) = true)
    (isLast : LastAnswer exchanges other) : other = answer := by
  have onlyGets := (probed.asked legal).gets_eq
  obtain ⟨before, last, rfl, -, arrived⟩ := probed.of_ok
  exact isLast.eq_of_answered onlyGets arrived

/-- A password is judged only by answers within the protocol. -/
theorem Conversed.not_isStrange {endpoint : Endpoint} {username password : String}
    {exchanges : List Exchange} {result : Except Fault Login}
    (conversed : Conversed endpoint username password exchanges result) {isValid : Bool}
    (judged : verdictOf result = .ok isValid) {answer : Answer}
    (isLast : LastAnswer exchanges answer) : ¬answer.IsStrange := by
  intro strange
  cases conversed with
  | stopped stopped =>
      cases isValid with
      | true =>
          obtain ⟨login, impossible⟩ := verdictOf_eq_true_iff.mp judged
          cases impossible
      | false =>
          have rejected := Except.error.inj (verdictOf_eq_false_iff.mp judged)
          exact stopped.ne_invalidCredentials rejected
  | trusted probed trusted =>
      rw [probed.lastAnswer_eq rfl isLast] at strange
      exact strange.1 trusted
  | strange probed untrusted strange => cases judged
  | unchallenged probed unauthorized missing =>
      obtain ⟨cause, rfl⟩ := ofHeaders_error missing
      cases judged
  | @posted first second _ _ _ _ probed unauthorized challenged posted =>
      have same : gets (first ++ second) = gets first := by
        rw [gets, List.filter_append, ← gets, ← gets, posted.gets_eq_nil, List.append_nil]
      have isLast' : LastAnswer first answer := by
        rw [LastAnswer, same] at isLast
        exact isLast
      rw [probed.lastAnswer_eq rfl isLast'] at strange
      exact strange.2 unauthorized

end Router

namespace Presented

variable {headers : Http.Headers} {asked : Presented} {endpoint : Router.Endpoint}
  {exchanges : List Router.Exchange}

theorem isLegalValue_headerText {cookies : List Http.Cookie}
    (presents : ofHeaders? headers = some (.cookies cookies)) :
    ((some (Http.Cookie.headerText cookies)).all fun text =>
      Http.Header.isLegalValue (Bytes.ofString text)) = true := by
  rcases ofHeaders?_eq_some_iff.mp presents with ⟨_, -, impossible⟩ | ⟨-, -, same⟩
  · cases impossible
  · cases same
    apply Http.Cookie.isLegalValue_headerText
    intro cookie member
    exact (List.mem_filter.mp member).1

theorem eq_nil_iff_of_verify (presents : ofHeaders? headers = some asked)
    {verdict : Except Fault Bool} (held : (asked.verify endpoint).Yields exchanges verdict) :
    exchanges = [] ↔ ¬Router.IsAskable endpoint.client.hosts endpoint.authUrl := by
  cases asked with
  | credentials given =>
      obtain ⟨result, login, -⟩ := Router.verify_yields_iff.mp held
      exact (Router.conversed_of_yields login).loginExchanges.eq_nil_iff
  | cookies given =>
      obtain ⟨reached, probed, -⟩ := Router.verifyCookies_probed held
      exact (probed.asked (isLegalValue_headerText presents)).eq_nil_iff

/-- What comes of a strange answer: a fault if it was about a password, and a no if it was the
one that decides about cookies. -/
inductive Misjudged (exchanges : List Router.Exchange) (answer : Router.Answer) :
    Presented → Except Fault Bool → Prop
  | password {given : Credentials} {fault : Fault} :
      Misjudged exchanges answer (.credentials given) (.error fault)
  | undecided {given : List Http.Cookie} {fault : Fault}
      (undecided : ¬Router.ProbeAnswer exchanges answer) :
      Misjudged exchanges answer (.cookies given) (.error fault)
  | no {given : List Http.Cookie} (decides : Router.ProbeAnswer exchanges answer) :
      Misjudged exchanges answer (.cookies given) (.ok false)

theorem misjudged_of_verify (presents : ofHeaders? headers = some asked)
    {verdict : Except Fault Bool} (held : (asked.verify endpoint).Yields exchanges verdict)
    {answer : Router.Answer} (isLast : Router.LastAnswer exchanges answer)
    (strange : answer.IsStrange) : Misjudged exchanges answer asked verdict := by
  cases asked with
  | credentials given =>
      obtain ⟨result, login, rfl⟩ := Router.verify_yields_iff.mp held
      have conversed := Router.conversed_of_yields login
      cases judged : Router.verdictOf result with
      | error fault => exact .password
      | ok isValid => exact absurd strange (conversed.not_isStrange judged isLast)
  | cookies given =>
      have legal := isLegalValue_headerText presents
      obtain ⟨reached, probed, rfl⟩ := Router.verifyCookies_probed held
      have decides := (probed.reading legal).answered answer
      cases reached with
      | error fault =>
          apply Misjudged.undecided
          intro decided
          obtain ⟨address, impossible⟩ := decides.mp decided
          cases impossible
      | ok place =>
          obtain ⟨address, other⟩ := place
          obtain rfl := probed.lastAnswer_eq legal isLast
          have refused : decide (answer.status = 200) = false := decide_eq_false strange.1
          simp only [Except.map, refused]
          exact .no (decides.mpr ⟨address, rfl⟩)

end Presented

theorem VerdictCache.get?_eq_none_of_le {cache : VerdictCache} {now later : Nat} {key : String}
    (unknown : cache.get? now key = none) (forward : now ≤ later) :
    cache.get? later key = none := by
  cases kept : cache.find? key with
  | none => simp only [get?, kept]
  | some verdict =>
      simp only [get?, kept] at unknown ⊢
      split at unknown
      next expired => exact if_pos (Nat.le_trans expired forward)
      next live => cases unknown

namespace Gateway

/-- From some moment on, a request makes the gateway ask its router, whichever that is. -/
def AsksAnew (gateway : Gateway) (headers : Http.Headers) (moment : Nat) : Prop :=
  ∀ (router : Router.Behavior) (later : Service), later.gateway = gateway → moment ≤ later.now →
    (later.act router (.authorize headers)).1.exchanges ≠ []

/-- Until some moment, a request is denied without a word to the router. -/
def KeepsRefusing (gateway : Gateway) (headers : Http.Headers) (expiry : Nat) : Prop :=
  ∀ (router : Router.Behavior) (later : Service), later.gateway = gateway → later.now < expiry →
    (later.act router (.authorize headers)).1.result = .decided .denied ∧
      (later.act router (.authorize headers)).1.exchanges = []

variable {gateway : Gateway} {endpoint : Router.Endpoint} {cache : VerdictCache}
  {headers : Http.Headers} {asked : Presented}

theorem asksAnew_of_unknown
    (backend : gateway.backend = .delegated endpoint (.verdicts cache))
    (presents : Presented.ofHeaders? headers = some asked) {now moment : Nat}
    (unknown : cache.get? now asked.key = none) (forward : now ≤ moment)
    (askable : Router.IsAskable endpoint.client.hosts endpoint.authUrl) :
    gateway.AsksAnew headers moment := by
  intro router later same since
  rw [← same] at backend
  have still := VerdictCache.get?_eq_none_of_le unknown (Nat.le_trans forward since)
  obtain ⟨spoken, -⟩ := Service.act_authorize_unknown backend router presents still
  rw [spoken]
  intro silent
  exact (Presented.eq_nil_iff_of_verify presents (yields_run router later.past _)).mp silent askable

theorem keepsRefusing_of_put {earlier : VerdictCache} {moment : Nat}
    (presents : Presented.ofHeaders? headers = some asked)
    (backend : gateway.backend =
      .delegated endpoint (.verdicts (earlier.put moment asked.key false))) :
    gateway.KeepsRefusing headers (moment + earlier.ttl) := by
  intro router later same live
  rw [← same] at backend
  have known : (earlier.put moment asked.key false).get? later.now asked.key = some false := by
    rw [VerdictCache.get?_put_self, if_neg (Nat.not_le.mpr live)]
  obtain ⟨result, silent, -⟩ := Service.act_authorize_known backend router presents known
  exact ⟨result, silent⟩

end Gateway

/-- Who spoke to the router presented something that was unknown. -/
theorem Service.presents_unknown {service : Service} {endpoint : Router.Endpoint}
    {cache : VerdictCache} {headers : Http.Headers}
    (backend : service.gateway.backend = .delegated endpoint (.verdicts cache))
    {router : Router.Behavior}
    (spoken : (service.act router (.authorize headers)).1.exchanges ≠ []) :
    ∃ asked, Presented.ofHeaders? headers = some asked ∧
      cache.get? service.now asked.key = none := by
  cases presents : Presented.ofHeaders? headers with
  | none =>
      obtain ⟨-, silent, -⟩ := act_authorize_nothing backend router presents
      exact absurd silent spoken
  | some asked =>
      cases known : cache.get? service.now asked.key with
      | none => exact ⟨asked, rfl, known⟩
      | some isValid =>
          obtain ⟨-, silent, -⟩ := act_authorize_known backend router presents known
          exact absurd silent spoken

/-- Whatever is presented, it is denied if the router's last answer to a question was neither a
yes nor a demand for a proof. If that was about a password, or if the answer only sent on to where
no other one came from, then the gateway stays as it is and asks again. But an answer that decides
about cookies is kept as a no, and the router is not asked again until the no expires. -/
theorem verdict_of_strange_answer (endpoint : Router.Endpoint) (cache : VerdictCache)
    (isDegraded : Bool) (now : Nat) (past : List Router.Exchange) (router : Router.Behavior)
    (headers : Http.Headers) (answer : Router.Answer) :
    let service : Service := ⟨⟨.delegated endpoint (.verdicts cache), isDegraded⟩, now, past⟩
    let decided := service.act router (.authorize headers)
    Router.LastAnswer decided.1.exchanges answer → answer.IsStrange →
      decided.1.result = .decided .denied ∧
        (Credentials.presented? headers ≠ none ∨ ¬Router.ProbeAnswer decided.1.exchanges answer →
          decided.2.gateway = service.gateway ∧
            decided.2.gateway.AsksAnew headers decided.2.now) ∧
        (Credentials.presented? headers = none → Router.ProbeAnswer decided.1.exchanges answer →
          decided.2.gateway = ⟨.delegated endpoint (.verdicts (cache.put decided.1.ended
              (Verdict.cookieKey (Presented.routerCookies headers)) false)), isDegraded⟩ ∧
            decided.2.gateway.KeepsRefusing headers (decided.1.ended + cache.ttl)) := by
  intro service decided isLast strange
  have backend : service.gateway.backend = .delegated endpoint (.verdicts cache) := rfl
  obtain ⟨asked, presents, unknown⟩ := Service.presents_unknown backend isLast.ne_nil
  obtain ⟨spoken, result, kept⟩ := Service.act_authorize_unknown backend router presents unknown
  have verifies := yields_run router service.past (asked.verify endpoint)
  rw [← spoken] at verifies
  have misjudged := Presented.misjudged_of_verify presents verifies isLast strange
  have forward : service.now ≤ decided.2.now := Service.now_le_act router service _
  have askable : Router.IsAskable endpoint.client.hosts endpoint.authUrl := by
    apply Classical.byContradiction
    intro unaskable
    exact isLast.ne_nil ((Presented.eq_nil_iff_of_verify presents verifies).mpr unaskable)
  have unmoved (same : decided.2.gateway = service.gateway) :
      decided.2.gateway = service.gateway ∧
        decided.2.gateway.AsksAnew headers decided.2.now := by
    refine ⟨same, ?_⟩
    rw [same]
    exact Gateway.asksAnew_of_unknown backend presents unknown forward askable
  generalize ((asked.verify endpoint).run router service.past).value = verdict
    at misjudged result kept
  cases misjudged with
  | password =>
      refine ⟨result, fun _ => unmoved kept, ?_⟩
      intro bare
      rcases Presented.ofHeaders?_eq_some_iff.mp presents with ⟨given, found, -⟩ | ⟨-, -, same⟩
      · rw [bare] at found
        cases found
      · cases same
  | undecided undecided =>
      refine ⟨result, fun _ => unmoved kept, ?_⟩
      intro _ decides
      exact absurd decides undecided
  | no decides =>
      rcases Presented.ofHeaders?_eq_some_iff.mp presents with ⟨_, -, same⟩ | ⟨bare, -, same⟩
      · cases same
      · cases same
        refine ⟨result, ?_, fun _ _ => ⟨kept, ?_⟩⟩
        · intro undone
          rcases undone with given | undecided
          · exact absurd bare given
          · exact absurd decides undecided
        · exact Gateway.keepsRefusing_of_put presents (congrArg Gateway.backend kept)

/-- A router that is down is asked about the same password again. -/
theorem verdict_of_strange_answer_password :
    let headers : Http.Headers := [.ofText "authorization" "Basic YWxpY2U6c2VjcmV0"]
    let answer : Router.Answer := ⟨503, [], .whole []⟩
    let router : Router.Behavior := fun _ _ => ⟨.answered answer, 5⟩
    let service : Service :=
      ⟨⟨.delegated ⟨"http://router", .tableless, 5000⟩ (.verdicts (.start 30000)), false⟩, 0, []⟩
    let decided := service.act router (.authorize headers)
    Router.LastAnswer decided.1.exchanges answer ∧ answer.IsStrange ∧
      Credentials.presented? headers = some ⟨"alice", "secret"⟩ ∧
      decided.1.result = .decided .denied ∧ decided.2.gateway = service.gateway ∧
      decided.2.gateway.AsksAnew headers decided.2.now := by
  intro headers answer router service decided
  have isLast : Router.LastAnswer decided.1.exchanges answer :=
    ⟨[], _, [], rfl, rfl, fun _ impossible => nomatch impossible⟩
  have strange : answer.IsStrange := ⟨by decide, by decide⟩
  have presents : Credentials.presented? headers = some ⟨"alice", "secret"⟩ := by rfl
  refine ⟨isLast, strange, presents, ?_⟩
  obtain ⟨denied, unmoved, -⟩ := verdict_of_strange_answer ⟨"http://router", .tableless, 5000⟩
    (.start 30000) false 0 [] router headers answer isLast strange
  have given : Credentials.presented? headers ≠ none := by
    rw [presents]
    exact Option.some_ne_none _
  exact ⟨denied, unmoved (.inl given)⟩

/-- A router that is down for one request: who shows its cookies then is denied again when it is
up, and it is not even asked. -/
theorem strange_answer_kept_as_no :
    let headers : Http.Headers := [.ofText "cookie" "sid=abc"]
    let answer : Router.Answer := ⟨503, [], .whole []⟩
    let router : Router.Behavior := fun past _ =>
      if past.isEmpty then ⟨.answered answer, 0⟩ else ⟨.answered ⟨200, [], .whole []⟩, 0⟩
    let service : Service :=
      ⟨⟨.delegated ⟨"http://192.168.1.1", .tableless, 5000⟩ (.verdicts (.start 30000)), false⟩,
        0, []⟩
    let decided := service.act router (.authorize headers)
    let again := decided.2.act router (.authorize headers)
    Router.LastAnswer decided.1.exchanges answer ∧ answer.IsStrange ∧
      decided.2.gateway ≠ service.gateway ∧ again.1.result = .decided .denied ∧
      again.1.exchanges = [] := by
  intro headers answer router service decided again
  have presents : Presented.ofHeaders? headers = some (.cookies [⟨"sid", "abc"⟩]) := by rfl
  have backend : service.gateway.backend =
    .delegated ⟨"http://192.168.1.1", .tableless, 5000⟩ (.verdicts (.start 30000)) := rfl
  obtain ⟨-, -, kept⟩ := Service.act_authorize_unknown backend router presents rfl
  have refusing := Gateway.keepsRefusing_of_put presents (congrArg Gateway.backend kept)
  obtain ⟨denied, silent⟩ := refusing router decided.2 rfl (by decide)
  refine ⟨?_, ⟨by decide, by decide⟩, ?_, denied, silent⟩
  · exact ⟨[], _, [], rfl, rfl, fun _ impossible => nomatch impossible⟩
  · intro same
    rw [kept] at same
    cases same

end RouterGate
