import RouterGate.Proofs.Http.TextValues
import RouterGate.Proofs.Router.Answers
/-!
Which requests a login makes. It asks at most twice, the second time where the first answer
redirects to, and then posts at most once, to the place that gave the challenge.
-/
namespace RouterGate.Router

/-- A question to an address: nothing is sent along but cookies and the user it names. -/
structure Request.IsGet (request : Request) (hosts : Url.HostMapping) (address : String)
    (cookie : Option String) : Prop where
  method : request.method = .get
  goesTo : request.GoesTo hosts address
  cookie : request.cookie = cookie
  body : request.body = none

theorem Request.goesTo_of_build {method : Method} {address : String} {cookie : Option String}
    {body : Option Bytes} {client : Client} {request : Request}
    (built : build method address cookie body client = .ok request) :
    request.GoesTo client.hosts address := by
  obtain ⟨url, parsed, -, -, rfl⟩ := build_eq_ok_iff.mp built
  exact ⟨url, parsed, rfl, rfl, rfl, rfl, rfl, rfl, rfl, rfl,
    fun value => Url.basicValue_user?_eq_some_iff⟩

theorem Request.isGet_of_build {address : String} {cookie : Option String} {client : Client}
    {request : Request} (built : build .get address cookie none client = .ok request) :
    request.IsGet client.hosts address cookie := by
  have goesTo := goesTo_of_build built
  obtain ⟨url, -, -, -, rfl⟩ := build_eq_ok_iff.mp built
  exact ⟨rfl, goesTo, rfl, rfl⟩

namespace Sent

variable {method : Method} {address : String} {cookie : Option String} {body : Option Bytes}
  {client : Client} {exchanges : List Exchange}

theorem of_ok {answer : Answer}
    (sent : Sent method address cookie body client exchanges (.ok answer)) :
    ∃ exchange, exchanges = [exchange] ∧
      Request.build method address cookie body client = .ok exchange.request ∧
      exchange.reply.delivery = .answered answer := by
  cases sent with
  | answered built arrived => exact ⟨_, rfl, built, arrived⟩

theorem of_isAskable {result : Except Fault Answer}
    (sent : Sent method address cookie body client exchanges result)
    (askable : IsAskable client.hosts address)
    (legal : (cookie.all fun text => Http.Header.isLegalValue (Bytes.ofString text)) = true) :
    ∃ exchange, exchanges = [exchange] ∧
      Request.build method address cookie body client = .ok exchange.request := by
  cases sent with
  | unbuilt unbuilt => exact absurd askable (Request.not_isAskable_of_build legal unbuilt)
  | answered built arrived => exact ⟨_, rfl, built⟩
  | lost built silent => exact ⟨_, rfl, built⟩

end Sent

/-- The questions of a probe: none, one, or two of which the first was answered by a redirect
that leads to the second. Where it can go on, it does. -/
inductive Asked (endpoint : Endpoint) (cookie : Option String) : List Exchange → Prop
  | never (unaskable : ¬IsAskable endpoint.client.hosts endpoint.authUrl) : Asked endpoint cookie []
  | once {exchange : Exchange} (askable : IsAskable endpoint.client.hosts endpoint.authUrl)
      (isGet : exchange.request.IsGet endpoint.client.hosts endpoint.authUrl cookie)
      (ends : ∀ answer target, exchange.reply.delivery = .answered answer →
        answer.RedirectsTo endpoint.client.hosts endpoint.authUrl target →
          ¬IsAskable endpoint.client.hosts target) :
      Asked endpoint cookie [exchange]
  | twice {first second : Exchange} {answer : Answer} {target : String}
      (askable : IsAskable endpoint.client.hosts endpoint.authUrl)
      (isGet : first.request.IsGet endpoint.client.hosts endpoint.authUrl cookie)
      (arrived : first.reply.delivery = .answered answer)
      (redirects : answer.RedirectsTo endpoint.client.hosts endpoint.authUrl target)
      (goesOn : IsAskable endpoint.client.hosts target)
      (again : second.request.IsGet endpoint.client.hosts target cookie) :
      Asked endpoint cookie [first, second]

namespace Probed

variable {endpoint : Endpoint} {cookie : Option String} {exchanges : List Exchange}
  {result : Except Fault (String × Answer)}

theorem asked (probed : Probed endpoint cookie exchanges result)
    (legal : (cookie.all fun text => Http.Header.isLegalValue (Bytes.ofString text)) = true) :
    Asked endpoint cookie exchanges := by
  cases probed with
  | stopped stopped =>
      cases stopped with
      | unbuilt unbuilt => exact .never (Request.not_isAskable_of_build legal unbuilt)
      | lost built silent =>
          apply Asked.once (Request.isAskable_of_build built) (Request.isGet_of_build built)
          intro answer target arrived
          exact absurd arrived (Delivery.ne_answered_of_outage? silent answer)
  | direct answered stays =>
      obtain ⟨exchange, rfl, built, arrived⟩ := answered.of_ok
      apply Asked.once (Request.isAskable_of_build built) (Request.isGet_of_build built)
      intro answer target arrived' redirects
      obtain ⟨location, leads, -⟩ := redirects
      cases arrived.symm.trans arrived'
      rw [leadsTo_iff, stays] at leads
      cases leads
  | astray answered leads unresolved =>
      obtain ⟨exchange, rfl, built, arrived⟩ := answered.of_ok
      apply Asked.once (Request.isAskable_of_build built) (Request.isGet_of_build built)
      intro answer target arrived' redirects
      obtain ⟨location, leads', resolved⟩ := redirects
      cases arrived.symm.trans arrived'
      cases leads.symm.trans (leadsTo_iff.mp leads')
      rw [resolves_iff, unresolved] at resolved
      cases resolved
  | stoppedBeyond answered leads resolved stopped =>
      obtain ⟨exchange, rfl, built, arrived⟩ := answered.of_ok
      have redirects : Answer.RedirectsTo _ _ _ _ :=
        ⟨_, leadsTo_iff.mpr leads, resolves_iff.mpr resolved⟩
      cases stopped with
      | unbuilt unbuilt =>
          apply Asked.once (Request.isAskable_of_build built) (Request.isGet_of_build built)
          intro answer target arrived' redirects'
          obtain ⟨location, leads', resolved'⟩ := redirects'
          cases arrived.symm.trans arrived'
          cases leads.symm.trans (leadsTo_iff.mp leads')
          cases resolved.symm.trans (resolves_iff.mp resolved')
          exact Request.not_isAskable_of_build legal unbuilt
      | lost builtBeyond silent =>
          exact .twice (Request.isAskable_of_build built) (Request.isGet_of_build built)
            arrived redirects (Request.isAskable_of_build builtBeyond)
            (Request.isGet_of_build builtBeyond)
  | redirected answered leads resolved beyond =>
      obtain ⟨exchange, rfl, built, arrived⟩ := answered.of_ok
      obtain ⟨second, rfl, builtBeyond, -⟩ := beyond.of_ok
      exact .twice (Request.isAskable_of_build built) (Request.isGet_of_build built) arrived
        ⟨_, leadsTo_iff.mpr leads, resolves_iff.mpr resolved⟩
        (Request.isAskable_of_build builtBeyond) (Request.isGet_of_build builtBeyond)

theorem of_ok {address : String} {answer : Answer}
    (probed : Probed endpoint cookie exchanges (.ok (address, answer))) :
    ∃ before last, exchanges = before ++ [last] ∧
      Request.build .get address cookie none endpoint.client = .ok last.request ∧
      last.reply.delivery = .answered answer := by
  cases probed with
  | direct answered stays =>
      obtain ⟨exchange, rfl, built, arrived⟩ := answered.of_ok
      exact ⟨[], exchange, rfl, built, arrived⟩
  | redirected answered leads resolved beyond =>
      obtain ⟨last, rfl, built, arrived⟩ := beyond.of_ok
      exact ⟨_, last, rfl, built, arrived⟩

theorem answer_unique {address : String} {answer other : Answer} {last : Exchange}
    (probed : Probed endpoint cookie exchanges (.ok (address, answer)))
    (isLast : exchanges.getLast? = some last)
    (arrived : last.reply.delivery = .answered other) : other = answer := by
  obtain ⟨before, exchange, rfl, -, arrived'⟩ := probed.of_ok
  rw [List.getLast?_concat, Option.some.injEq] at isLast
  subst isLast
  cases arrived.symm.trans arrived'
  rfl

theorem redirects_of_error {fault : Fault}
    (probed : Probed endpoint cookie exchanges (.error fault)) {last : Exchange}
    {answer : Answer} (isLast : exchanges.getLast? = some last)
    (arrived : last.reply.delivery = .answered answer) :
    ∃ location, redirection? answer = some location := by
  cases probed with
  | stopped stopped =>
      cases stopped with
      | unbuilt unbuilt => cases isLast
      | lost built silent =>
          rw [List.getLast?_singleton, Option.some.injEq] at isLast
          subst isLast
          exact absurd arrived (Delivery.ne_answered_of_outage? silent answer)
  | astray first leads unresolved =>
      obtain ⟨exchange, rfl, -, arrived'⟩ := first.of_ok
      rw [List.getLast?_singleton, Option.some.injEq] at isLast
      subst isLast
      cases arrived'.symm.trans arrived
      exact ⟨_, leads⟩
  | stoppedBeyond first leads resolved stopped =>
      obtain ⟨exchange, rfl, -, arrived'⟩ := first.of_ok
      cases stopped with
      | unbuilt unbuilt =>
          rw [List.append_nil, List.getLast?_singleton, Option.some.injEq] at isLast
          subst isLast
          cases arrived'.symm.trans arrived
          exact ⟨_, leads⟩
      | lost built silent =>
          rw [List.getLast?_concat, Option.some.injEq] at isLast
          subst isLast
          exact absurd arrived (Delivery.ne_answered_of_outage? silent answer)

end Probed

def gets (exchanges : List Exchange) : List Exchange :=
  exchanges.filter (·.request.method = .get)

theorem ne_post_of_gets {exchanges : List Exchange} (onlyGets : gets exchanges = exchanges)
    {exchange : Exchange} (sent : exchange ∈ exchanges) : exchange.request.method ≠ .post := by
  intro posts
  rw [← onlyGets] at sent
  have isGet := (List.mem_filter.mp sent).2
  simp [posts] at isGet

theorem gets_concat {asked : List Exchange} (onlyGets : gets asked = asked) (post : Exchange)
    (posts : post.request.method = .post) :
    gets (asked ++ [post]) = asked := by
  rw [gets, List.filter_append, ← gets, onlyGets, List.filter_cons_of_neg (by simp [posts]),
    List.filter_nil, List.append_nil]

namespace Asked

variable {endpoint : Endpoint} {cookie : Option String} {exchanges : List Exchange}

theorem gets_eq (asked : Asked endpoint cookie exchanges) : gets exchanges = exchanges := by
  cases asked with
  | never unaskable => rfl
  | once askable isGet ends => simp [gets, isGet.method]
  | twice askable isGet arrived redirects goesOn again => simp [gets, isGet.method, again.method]

theorem methods (asked : Asked endpoint cookie exchanges) :
    exchanges.map (·.request.method) ∈ [[], [Method.get], [Method.get, Method.get]] := by
  cases asked with
  | never unaskable => simp
  | once askable isGet ends => simp [isGet.method]
  | twice askable isGet arrived redirects goesOn again => simp [isGet.method, again.method]

theorem eq_nil_iff (asked : Asked endpoint cookie exchanges) :
    exchanges = [] ↔ ¬IsAskable endpoint.client.hosts endpoint.authUrl := by
  cases asked with
  | never unaskable => simp [unaskable]
  | once askable isGet ends => simp [askable]
  | twice askable isGet arrived redirects goesOn again => simp [askable]

theorem isGet_first (asked : Asked endpoint cookie exchanges) {first : Exchange}
    (isFirst : exchanges[0]? = some first) :
    first.request.IsGet endpoint.client.hosts endpoint.authUrl cookie := by
  cases asked with
  | never unaskable => cases isFirst
  | once askable isGet ends =>
      cases isFirst
      exact isGet
  | twice askable isGet arrived redirects goesOn again =>
      cases isFirst
      exact isGet

theorem isGet_second (asked : Asked endpoint cookie exchanges) {second : Exchange}
    (isSecond : exchanges[1]? = some second) :
    ∃ first answer target, exchanges[0]? = some first ∧
      first.reply.delivery = .answered answer ∧
      answer.RedirectsTo endpoint.client.hosts endpoint.authUrl target ∧
      second.request.IsGet endpoint.client.hosts target cookie := by
  cases asked with
  | never unaskable => cases isSecond
  | once askable isGet ends => cases isSecond
  | twice askable isGet arrived redirects goesOn again =>
      cases isSecond
      exact ⟨_, _, _, rfl, arrived, redirects, again⟩

theorem goes_on (asked : Asked endpoint cookie exchanges) {first : Exchange} {answer : Answer}
    {target : String} (isFirst : exchanges[0]? = some first)
    (arrived : first.reply.delivery = .answered answer)
    (redirects : answer.RedirectsTo endpoint.client.hosts endpoint.authUrl target)
    (askable : IsAskable endpoint.client.hosts target) :
    exchanges.length = 2 := by
  cases asked with
  | never unaskable => cases isFirst
  | once askable' isGet ends =>
      cases isFirst
      exact absurd askable (ends answer target arrived redirects)
  | twice askable' isGet arrived' redirects' goesOn again => rfl

end Asked

/-- The posted document proves the password for a challenge, and does not tell it. -/
def responseDocument (username password realm nonce : String) : Bytes :=
  let hash := hexText (Digest.md5 (Bytes.ofString (username ++ ":" ++ realm ++ ":" ++ password)))
  let response := hexText (Digest.sha256 (Bytes.ofString nonce ++ Bytes.ofString hash))
  Json.write (.record [("login", .text username), ("password", .text response)])

theorem loginDocument_respond (challenge : Challenge) (username password : String) :
    loginDocument username (challenge.respond username password) =
      responseDocument username password challenge.realm challenge.nonce := rfl

example : credentialHash "alice" "example" "secret" = "a110383056f556b818bd7026fed7451b" ∧
    loginDocument "alice" (Challenge.respond ⟨"example", "abc123"⟩ "alice" "secret") =
      Bytes.ofString ("\x7b\"login\":\"alice\",\"password\":\"84c6556a839355ff32b59228139f41b1" ++
        "cdc8d6f970fd2796d9f33d4a5ec59539\"\x7d") := by
  decide +kernel

/-- The exchanges of a login: some questions, and a post exactly if the last of them was answered
by a challenge. -/
inductive LoginExchanges (endpoint : Endpoint) (username password : String) :
    List Exchange → Prop
  | unchallenged {gets : List Exchange} (asked : Asked endpoint none gets)
      (quiet : ∀ last answer realm nonce, gets.getLast? = some last →
        last.reply.delivery = .answered answer → ¬answer.Challenges realm nonce) :
      LoginExchanges endpoint username password gets
  | challenged {gets : List Exchange} {last post : Exchange} {answer : Answer}
      {realm nonce : String} (asked : Asked endpoint none gets)
      (isLast : gets.getLast? = some last) (arrived : last.reply.delivery = .answered answer)
      (challenges : answer.Challenges realm nonce)
      (posts : post.request.method = .post) (back : post.request.url = last.request.url)
      (user : post.request.authorization = last.request.authorization)
      (returns : post.request.cookie = Http.Cookie.returned? answer.headers)
      (responds : post.request.body = some (responseDocument username password realm nonce)) :
      LoginExchanges endpoint username password (gets ++ [post])

namespace Conversed

variable {endpoint : Endpoint} {username password : String} {exchanges : List Exchange}
  {result : Except Fault Login}

theorem loginExchanges (conversed : Conversed endpoint username password exchanges result) :
    LoginExchanges endpoint username password exchanges := by
  cases conversed with
  | stopped stopped =>
      apply LoginExchanges.unchallenged (stopped.asked rfl)
      intro last answer realm nonce isLast arrived challenges
      obtain ⟨location, leads⟩ := stopped.redirects_of_error isLast arrived
      have redirects := (leadsTo_iff.mpr leads).1
      rw [challenges.1] at redirects
      exact absurd redirects (by decide)
  | trusted probed trusted =>
      apply LoginExchanges.unchallenged (probed.asked rfl)
      intro last answer realm nonce isLast arrived challenges
      cases probed.answer_unique isLast arrived
      rw [challenges.1] at trusted
      exact absurd trusted (by decide)
  | strange probed untrusted strange =>
      apply LoginExchanges.unchallenged (probed.asked rfl)
      intro last answer realm nonce isLast arrived challenges
      cases probed.answer_unique isLast arrived
      exact strange challenges.1
  | unchallenged probed unauthorized missing =>
      apply LoginExchanges.unchallenged (probed.asked rfl)
      intro last answer realm nonce isLast arrived challenges
      cases probed.answer_unique isLast arrived
      rw [(challenges_iff.mp challenges).2] at missing
      cases missing
  | posted probed unauthorized challenged posted =>
      have asked := probed.asked rfl
      obtain ⟨before, last, rfl, built, arrived⟩ := probed.of_ok
      obtain ⟨post, rfl, builtPost⟩ :=
        posted.of_isAskable (Request.isAskable_of_build built)
          (Http.Cookie.isLegalValue_returned? _)
      have responds := Request.body_of_build builtPost
      rw [loginDocument_respond] at responds
      obtain ⟨url, parsed, -, -, sameGet⟩ := Request.build_eq_ok_iff.mp built
      obtain ⟨place, parsedAgain, -, -, samePost⟩ := Request.build_eq_ok_iff.mp builtPost
      cases parsed.symm.trans parsedAgain
      refine .challenged asked List.getLast?_concat arrived
        (challenges_iff.mpr ⟨unauthorized, challenged⟩) (Request.method_of_build builtPost)
        ?_ ?_ ?_ responds
      · rw [samePost, sameGet]
      · rw [samePost, sameGet]
      · rw [samePost]

end Conversed

namespace LoginExchanges

variable {endpoint : Endpoint} {username password : String} {exchanges : List Exchange}

theorem asked (shape : LoginExchanges endpoint username password exchanges) :
    Asked endpoint none (gets exchanges) := by
  cases shape with
  | unchallenged asked quiet =>
      rw [asked.gets_eq]
      exact asked
  | challenged asked isLast arrived challenges posts back user returns responds =>
      rw [gets_concat asked.gets_eq _ posts]
      exact asked

theorem methods (shape : LoginExchanges endpoint username password exchanges) :
    exchanges.map (·.request.method) ∈
      [[], [Method.get], [.get, .get], [.get, .post], [.get, .get, .post]] := by
  cases shape with
  | unchallenged asked quiet =>
      have few := asked.methods
      simp only [List.mem_cons, List.not_mem_nil, or_false] at few ⊢
      rcases few with none | once | twice
      · exact .inl none
      · exact .inr (.inl once)
      · exact .inr (.inr (.inl twice))
  | challenged asked isLast arrived challenges posts back user returns responds =>
      rw [List.map_append, List.map_singleton, posts]
      have few := asked.methods
      simp only [List.mem_cons, List.not_mem_nil, or_false] at few
      rcases few with none | once | twice
      · rw [List.map_eq_nil_iff.mp none] at isLast
        cases isLast
      · rw [once]
        simp
      · rw [twice]
        simp

theorem eq_nil_iff (shape : LoginExchanges endpoint username password exchanges) :
    exchanges = [] ↔ ¬IsAskable endpoint.client.hosts endpoint.authUrl := by
  cases shape with
  | unchallenged asked quiet => exact asked.eq_nil_iff
  | challenged asked isLast arrived challenges posts back user returns responds =>
      constructor
      · intro impossible
        exact absurd impossible (List.append_ne_nil_of_right_ne_nil _ (List.cons_ne_nil _ _))
      · intro unaskable
        rw [asked.eq_nil_iff.mpr unaskable] at isLast
        cases isLast

theorem of_post (shape : LoginExchanges endpoint username password exchanges) {post : Exchange}
    (sent : post ∈ exchanges) (posts : post.request.method = .post) :
    ∃ last answer realm nonce, (gets exchanges).getLast? = some last ∧
      last.reply.delivery = .answered answer ∧ answer.Challenges realm nonce ∧
      post.request.url = last.request.url ∧
      post.request.authorization = last.request.authorization ∧
      post.request.cookie = Http.Cookie.returned? answer.headers ∧
      post.request.body = some (responseDocument username password realm nonce) := by
  cases shape with
  | unchallenged asked quiet => exact absurd posts (ne_post_of_gets asked.gets_eq sent)
  | challenged asked isLast arrived challenges posts' back user returns responds =>
      rcases List.mem_append.mp sent with inAsked | inPost
      · exact absurd posts (ne_post_of_gets asked.gets_eq inAsked)
      · cases List.mem_singleton.mp inPost
        rw [gets_concat asked.gets_eq _ posts]
        exact ⟨_, _, _, _, isLast, arrived, challenges, back, user, returns, responds⟩

theorem exists_post (shape : LoginExchanges endpoint username password exchanges)
    {last : Exchange} {answer : Answer} {realm nonce : String}
    (isLast : (gets exchanges).getLast? = some last)
    (arrived : last.reply.delivery = .answered answer)
    (challenges : answer.Challenges realm nonce) :
    ∃ post ∈ exchanges, post.request.method = .post := by
  cases shape with
  | unchallenged asked quiet =>
      rw [asked.gets_eq] at isLast
      exact absurd challenges (quiet last answer realm nonce isLast arrived)
  | challenged asked isLast' arrived' challenges' posts back user returns responds =>
      exact ⟨_, List.mem_append_right _ List.mem_cons_self, posts⟩

end LoginExchanges

theorem Endpoint.authUrl_ofAddress (address : String) (client : Client) :
    ∃ base slashes, address.toList = base.toList ++ List.replicate slashes '/' ∧
      base.toList.getLast? ≠ some '/' ∧
      (ofAddress address client).authUrl = base ++ "/auth" := by
  obtain ⟨slashes, cut⟩ := Text.exists_eq_dropTrailing '/' address
  exact ⟨Text.dropTrailing '/' address, slashes, cut,
    Text.getLast?_dropTrailing '/' address, rfl⟩

/-- Whatever the router does, a login is one of five conversations: it asks the login address,
follows at most one redirect from there, and posts the response to a challenge to the place where
the challenge came from. -/
theorem login_conversation (address : String) (client : Client) (username password : String)
    (router : Behavior) (past : List Exchange) :
    let endpoint := Endpoint.ofAddress address client
    let exchanges := ((endpoint.login username password).run router past).exchanges
    exchanges.map (·.request.method) ∈
        [[], [Method.get], [.get, .get], [.get, .post], [.get, .get, .post]] ∧
      (exchanges = [] ↔ ¬IsAskable client.hosts endpoint.authUrl) ∧
      (∃ base slashes, address.toList = base.toList ++ List.replicate slashes '/' ∧
        base.toList.getLast? ≠ some '/' ∧ endpoint.authUrl = base ++ "/auth") ∧
      (∀ first, (gets exchanges)[0]? = some first →
        first.request.IsGet client.hosts endpoint.authUrl none) ∧
      (∀ second, (gets exchanges)[1]? = some second →
        ∃ first answer target, (gets exchanges)[0]? = some first ∧
          first.reply.delivery = .answered answer ∧
          answer.RedirectsTo client.hosts endpoint.authUrl target ∧
          second.request.IsGet client.hosts target none) ∧
      (∀ first answer target, (gets exchanges)[0]? = some first →
        first.reply.delivery = .answered answer →
        answer.RedirectsTo client.hosts endpoint.authUrl target → IsAskable client.hosts target →
        (gets exchanges).length = 2) ∧
      ((∃ post ∈ exchanges, post.request.method = .post) ↔
        ∃ last answer realm nonce, (gets exchanges).getLast? = some last ∧
          last.reply.delivery = .answered answer ∧ answer.Challenges realm nonce) ∧
      (∀ post ∈ exchanges, post.request.method = .post →
        ∃ last answer realm nonce, (gets exchanges).getLast? = some last ∧
          last.reply.delivery = .answered answer ∧ answer.Challenges realm nonce ∧
          post.request.url = last.request.url ∧
          post.request.authorization = last.request.authorization ∧
          post.request.cookie = Http.Cookie.returned? answer.headers ∧
          post.request.body = some (responseDocument username password realm nonce)) := by
  intro endpoint exchanges
  have shape : LoginExchanges endpoint username password exchanges :=
    (conversed_of_yields (Dialogue.yields_run router past _)).loginExchanges
  refine ⟨shape.methods, shape.eq_nil_iff, Endpoint.authUrl_ofAddress address client,
    fun first => shape.asked.isGet_first, fun second => shape.asked.isGet_second,
    fun first answer target => shape.asked.goes_on, ?_, fun post => shape.of_post⟩
  constructor
  · intro posted
    obtain ⟨post, sent, posts⟩ := posted
    obtain ⟨last, answer, realm, nonce, isLast, arrived, challenges, -⟩ :=
      shape.of_post sent posts
    exact ⟨last, answer, realm, nonce, isLast, arrived, challenges⟩
  · intro challenged
    obtain ⟨last, answer, realm, nonce, isLast, arrived, challenges⟩ := challenged
    exact shape.exists_post isLast arrived challenges

end RouterGate.Router
