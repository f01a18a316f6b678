import RouterGate.Proofs.Http.Respelling
import RouterGate.Proofs.Verdict.StrangeAnswers
import RouterGate.Router.Wire
/-!
The cookies that the router is shown. They are those of the request, without the session cookie of
the gateway itself, and the router reads them as the gateway did.
-/
namespace RouterGate

open Http

namespace Http.Cookie

/-- What is presented is a matter of the fields of cookies alone. -/
theorem presented_congr {first second : Headers}
    (same : Headers.values "cookie" first = Headers.values "cookie" second) :
    presented first = presented second := by
  rw [presented, presented, Headers.texts, Headers.texts, same]

end Http.Cookie

namespace Router

namespace Request

/-- A legal value of a header field does not stand in the way of a request. -/
theorem build_cookie {cookie : String}
    (legal : Header.isLegalValue (Bytes.ofString cookie) = true) (method : Method)
    (address : String) (body : Option Bytes) (client : Client) :
    build method address (some cookie) body client =
      (build method address none body client).map fun request =>
        { request with cookie := some cookie } := by
  unfold build
  cases Url.parse client.hosts address with
  | error defect => rfl
  | ok place =>
      cases place with
      | other text => rfl
      | web url =>
          cases requestable : url.isRequestable with
          | false => simp [requestable, Except.map]
          | true => simp [requestable, legal, Except.map]

/-- The field of cookies is the only one of its name. -/
theorem values_cookie_fields (request : Request) :
    Headers.values "cookie" request.fields = request.cookie.toList.map Bytes.ofString := by
  have leading : Headers.values "cookie" [.ofText "accept" "*/*",
      .ofText "user-agent" userAgent, .ofText "host" request.authority,
      .ofText "connection" "close"] = [] := by
    rw [Headers.values_cons_of_other (by decide), Headers.values_cons_of_other (by decide),
      Headers.values_cons_of_other (by decide), Headers.values_cons_of_other (by decide)]
    rfl
  have named : Headers.values "cookie"
      (request.authorization.map (Header.ofText "authorization")).toList = [] := by
    cases request.authorization with
    | none => rfl
    | some authorization =>
        rw [Option.map_some, Option.toList_some, Headers.values_cons_of_other (by decide)]
        rfl
  have trailing (body : Bytes) : Headers.values "cookie" [.ofText "content-type" contentType,
      .ofText "content-length" (toString body.length)] = [] := by
    rw [Headers.values_cons_of_other (by decide), Headers.values_cons_of_other (by decide)]
    rfl
  rw [fields, Headers.values_append, Headers.values_append, Headers.values_append, leading,
    named, List.append_nil, List.nil_append]
  cases request.cookie with
  | none =>
      cases request.body with
      | none => rfl
      | some body => exact trailing body
  | some cookie =>
      rw [Option.map_some, Option.toList_some, Headers.values_cons_ofText]
      cases request.body with
      | none => rfl
      | some body =>
          rw [trailing]
          rfl

end Request

/-- Every question of a probe shows the same cookies. -/
theorem Asked.cookie_eq {endpoint : Endpoint} {cookie : Option String} {exchanges : List Exchange}
    (asked : Asked endpoint cookie exchanges) {exchange : Exchange}
    (sent : exchange ∈ exchanges) : exchange.request.cookie = cookie := by
  cases asked with
  | never unaskable => cases sent
  | once askable isGet ends =>
      cases List.mem_singleton.mp sent
      exact isGet.cookie
  | twice askable isGet arrived redirects goesOn again =>
      simp only [List.mem_cons, List.not_mem_nil, or_false] at sent
      rcases sent with rfl | rfl
      · exact isGet.cookie
      · exact again.cookie

/-- Some cookies as a request carries them: in one field, from which they can be read again. -/
structure Request.Shows (request : Request) (cookies : List Cookie) : Prop where
  isOnly : Headers.values "cookie" request.fields =
    [Bytes.ofString (Cookie.headerText cookies)]
  read : Cookie.presented request.fields = cookies

theorem Request.shows_of_presented {headers : Headers} {cookies : List Cookie}
    (given : ∀ cookie ∈ cookies, cookie ∈ Cookie.presented headers) {request : Request}
    (carries : request.cookie = some (Cookie.headerText cookies)) :
    request.Shows cookies := by
  have isOnly := request.values_cookie_fields
  rw [carries, Option.toList_some, List.map_singleton] at isOnly
  refine ⟨isOnly, ?_⟩
  have same := isOnly.trans (Headers.values_cons_ofText "cookie" _ []).symm
  rw [Cookie.presented_congr same, Cookie.presented_headerText given,
    Cookie.presented, Headers.texts, Headers.values]
  exact List.append_nil cookies

end Router

namespace Presented

variable {headers : Headers}

theorem presented_of_routerCookies :
    ∀ cookie ∈ routerCookies headers, cookie ∈ Cookie.presented headers :=
  fun _ member => (List.mem_filter.mp member).1

theorem ne_sessionName_of_routerCookies :
    ∀ cookie ∈ routerCookies headers, cookie.name ≠ Cookie.sessionName :=
  fun _ member => by simpa using (List.mem_filter.mp member).2

end Presented

section Asking

variable {service : Service} {endpoint : Router.Endpoint} {cache : VerdictCache}
  {headers : Headers}
  (backend : service.gateway.backend = .delegated endpoint (.verdicts cache))
  (router : Router.Behavior) (bare : Credentials.presented? headers = none)

include backend bare

/-- Without credentials the router is asked about the cookies that are for it, if there are any
and their verdict is not known. -/
theorem Service.asked_about_cookies :
    let others := Presented.routerCookies headers
    let sent := (service.act router (.authorize headers)).1.exchanges
    (sent = [] ∧ (others = [] ∨ cache.get? service.now (Verdict.cookieKey others) ≠ none)) ∨
      (others ≠ [] ∧ cache.get? service.now (Verdict.cookieKey others) = none ∧
        Router.Asked endpoint (some (Cookie.headerText others)) sent) := by
  intro others sent
  by_cases empty : others = []
  · have nothing : Presented.ofHeaders? headers = none := by
      cases presents : Presented.ofHeaders? headers with
      | none => rfl
      | some asked =>
          rcases Presented.ofHeaders?_eq_some_iff.mp presents with
            ⟨given, found, -⟩ | ⟨-, some_cookies, -⟩
          · rw [bare] at found
            cases found
          · exact absurd empty some_cookies
    exact .inl ⟨(act_authorize_nothing backend router nothing).2.1, .inl empty⟩
  · have presents : Presented.ofHeaders? headers = some (.cookies others) :=
      Presented.ofHeaders?_eq_some_iff.mpr (.inr ⟨bare, empty, rfl⟩)
    cases known : cache.get? service.now (Verdict.cookieKey others) with
    | some isValid =>
        have silent := (act_authorize_known backend router presents known).2.1
        exact .inl ⟨silent, .inr (Option.some_ne_none isValid)⟩
    | none =>
        obtain ⟨spoken, -⟩ := act_authorize_unknown backend router presents known
        have verifies := Router.Dialogue.yields_run router service.past
          ((Presented.cookies others).verify endpoint)
        rw [← spoken] at verifies
        obtain ⟨reached, probed, -⟩ := Router.verifyCookies_probed verifies
        exact .inr ⟨empty, rfl, probed.asked (Presented.isLegalValue_headerText presents)⟩

theorem Service.asked_nothing_iff :
    let others := Presented.routerCookies headers
    (service.act router (.authorize headers)).1.exchanges = [] ↔
      others = [] ∨ cache.get? service.now (Verdict.cookieKey others) ≠ none ∨
        ¬Router.IsAskable endpoint.client.hosts endpoint.authUrl := by
  intro others
  rcases asked_about_cookies backend router bare with ⟨silent, why⟩ | ⟨some_cookies, unknown, asked⟩
  · rcases why with empty | known
    · exact iff_of_true silent (.inl empty)
    · exact iff_of_true silent (.inr (.inl known))
  · rw [asked.eq_nil_iff]
    constructor
    · intro unaskable
      exact .inr (.inr unaskable)
    · intro why
      rcases why with empty | known | unaskable
      · exact absurd empty some_cookies
      · exact absurd unknown known
      · exact unaskable

theorem Service.shows_others {exchange : Router.Exchange}
    (sent : exchange ∈ (service.act router (.authorize headers)).1.exchanges) :
    exchange.request.Shows (Presented.routerCookies headers) := by
  rcases asked_about_cookies backend router bare with ⟨silent, -⟩ | ⟨-, -, asked⟩
  · rw [silent] at sent
    cases sent
  · exact Router.Request.shows_of_presented Presented.presented_of_routerCookies
      (asked.cookie_eq sent)

end Asking

/-- The cookies of a request are those of its fields, one field after another, however their texts
are divided among the fields; a name is never blank, and neither names nor values have blanks
around them or marks of the format in them. What the router is shown is the same cookies again,
without the gateway's own: the field that carries them is legal, and reading it gives them back. -/
theorem cookies_shown_unchanged (headers : Headers) :
    Cookie.presented headers = headers.flatMap Cookie.inField ∧
      (∀ part cookie, Cookie.ofPair? part = some cookie ↔
        ∃ before after, part = before ++ '=' :: after ∧ '=' ∉ before ∧ Text.trim before ≠ [] ∧
          cookie = ⟨String.ofList (Text.trim before), String.ofList (Text.trim after)⟩) ∧
      (∀ before between after joined first second, Cookie.Divides joined first second →
        Headers.texts "cookie" between = [] →
        ((Header.text? joined.value).isSome = true ↔
          (Header.text? first.value).isSome = true ∧ (Header.text? second.value).isSome = true) ∧
        ((Header.text? joined.value).isSome = true →
          Cookie.presented (before ++ joined :: between ++ after) =
            Cookie.presented (before ++ first :: between ++ second :: after))) ∧
      (∀ cookie ∈ Cookie.presented headers, cookie.IsSpellable) ∧
      ∀ (endpoint : Router.Endpoint) (cache : VerdictCache) (isDegraded : Bool) (now : Nat)
        (past : List Router.Exchange) (router : Router.Behavior),
        let service : Service := ⟨⟨.delegated endpoint (.verdicts cache), isDegraded⟩, now, past⟩
        let sent := (service.act router (.authorize headers)).1.exchanges
        let others := (Cookie.presented headers).filter (·.name != "tt_session")
        let shown := Cookie.headerText others
        Credentials.presented? headers = none →
          Header.isLegalValue (Bytes.ofString shown) = true ∧
            (∀ address, Router.Request.build .get address (some shown) none endpoint.client =
              (Router.Request.build .get address none none endpoint.client).map
                fun request => { request with cookie := some shown }) ∧
            (∀ exchange ∈ sent, exchange.request.Shows others) ∧
            (∀ cookie ∈ others, cookie.name ≠ "tt_session") ∧
            (sent = [] ↔ others = [] ∨ cache.get? now (Verdict.cookieKey others) ≠ none ∨
              ¬Router.IsAskable endpoint.client.hosts endpoint.authUrl) := by
  refine ⟨Cookie.presented_eq_flatMap headers, fun part cookie => Cookie.ofPair?_eq_some_iff, ?_,
    fun cookie => Cookie.isSpellable_of_mem_presented, ?_⟩
  · intro before between after joined first second divides neighbours
    exact ⟨Cookie.isSome_text?_iff_of_divides divides,
      fun isText => Cookie.presented_of_divides divides isText neighbours before after⟩
  · intro endpoint cache isDegraded now past router service sent others shown bare
    have backend : service.gateway.backend = .delegated endpoint (.verdicts cache) := rfl
    have legal : Header.isLegalValue (Bytes.ofString shown) = true :=
      Cookie.isLegalValue_headerText Presented.presented_of_routerCookies
    refine ⟨legal, ?_, ?_, Presented.ne_sessionName_of_routerCookies,
      Service.asked_nothing_iff backend router bare⟩
    · intro address
      exact Router.Request.build_cookie legal .get address none endpoint.client
    · intro exchange isSent
      exact Service.shows_others backend router bare isSent

/-- Two fields of cookies, with a session cookie and blanks among them. -/
theorem cookies_shown_unchanged_two_fields :
    let headers : Headers :=
      [.ofText "Cookie" "sid=a=b ; tt_session=0", .ofText "cookie" ";; sid = "]
    let router : Router.Behavior := fun _ _ => ⟨.timedOut "operation timed out", 5⟩
    let service : Service :=
      ⟨⟨.delegated ⟨"http://router", .tableless, 5000⟩ (.verdicts (.start 30000)), false⟩, 0, []⟩
    let sent := (service.act router (.authorize headers)).1.exchanges
    sent.map (·.request.cookie) = [some "sid=a=b; sid="] ∧
      ∀ exchange ∈ sent, exchange.request.Shows [⟨"sid", "a=b"⟩, ⟨"sid", ""⟩] := by
  intro headers router service sent
  refine ⟨rfl, ?_⟩
  obtain ⟨-, -, -, -, shown⟩ := cookies_shown_unchanged headers
  obtain ⟨-, -, shows, -⟩ := shown ⟨"http://router", .tableless, 5000⟩ (.start 30000) false 0 []
    router rfl
  exact shows

end RouterGate
