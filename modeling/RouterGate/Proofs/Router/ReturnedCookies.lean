import RouterGate.Proofs.Router.LoginRequests
import RouterGate.Proofs.Text.Cutting
/-!
The cookies that a login gives back. Each `Set-Cookie` that came along with the challenge
contributes one pair, and nothing else does: what a redirecting answer sets is lost on the way.
-/
namespace RouterGate

namespace Http.Cookie

/-- A pair `name=value` with a name. -/
def IsNamed (pair : List Char) : Prop :=
  ∃ name value, pair = name ++ '=' :: value ∧ name ≠ [] ∧ '=' ∉ name

/-- What the text of a `Set-Cookie` field sets is what stands in it before any attributes, without
the blanks around it. -/
def Sets (text : List Char) (pair : String) : Prop :=
  ∃ segment, ';' ∉ segment ∧
    (text = segment ∨ ∃ attributes, text = segment ++ ';' :: attributes) ∧
    pair.toList = Text.trim segment ∧ IsNamed pair.toList

/-- The pairs that the values of `Set-Cookie` fields set, in order of arrival. -/
inductive SetInOrder : List Bytes → List String → Prop
  | none : SetInOrder [] []
  | pair {value : Bytes} {text : List Char} {pair : String} {values : List Bytes}
      {pairs : List String} (read : Header.text? value = some text) (sets : Sets text pair)
      (later : SetInOrder values pairs) : SetInOrder (value :: values) (pair :: pairs)
  | nothing {value : Bytes} {values : List Bytes} {pairs : List String}
      (without : ∀ text pair, Header.text? value = some text → ¬Sets text pair)
      (later : SetInOrder values pairs) : SetInOrder (value :: values) pairs

def SetBy (headers : Headers) (pairs : List String) : Prop :=
  SetInOrder (Headers.values "set-cookie" headers) pairs

/-- The value of the one `Cookie` field that returns some pairs; without pairs there is none. -/
def joined? (pairs : List String) : Option String :=
  if pairs = [] then none else some ("; ".intercalate pairs)

theorem returned?_eq_joined? (headers : Headers) :
    returned? headers = joined? (setPairs headers) := by
  unfold returned? joined?
  cases setPairs headers <;> rfl

theorem joined?_eq_none_iff {pairs : List String} : joined? pairs = none ↔ pairs = [] := by
  simp [joined?]

theorem joined?_eq_some_iff {pairs : List String} {text : String} :
    joined? pairs = some text ↔ pairs ≠ [] ∧ "; ".intercalate pairs = text := by
  rw [joined?, Option.ite_none_left_eq_some, Option.some.injEq]

theorem isNamed_iff {pair : List Char} :
    IsNamed pair ↔ (pair.contains '=' && pair.head? != some '=') = true := by
  rw [Bool.and_eq_true, List.contains_iff_mem, bne_iff_ne]
  constructor
  · intro named
    obtain ⟨name, value, rfl, filled, absent⟩ := named
    refine ⟨List.mem_append_right _ List.mem_cons_self, ?_⟩
    obtain ⟨c, rest, rfl⟩ := List.exists_cons_of_ne_nil filled
    intro leads
    exact absent (Option.some.inj leads ▸ List.mem_cons_self)
  · intro named
    obtain ⟨marked, filled⟩ := named
    obtain ⟨name, value, rfl, absent⟩ := List.eq_append_cons_of_mem marked
    refine ⟨name, value, rfl, ?_, absent⟩
    rintro rfl
    exact filled rfl

theorem sets_iff {text : List Char} {pair : String} :
    Sets text pair ↔ setPair? text = some pair := by
  have found : setPair? text = some pair ↔
      pair.toList = Text.trim ((Text.fields ';' text).headD []) ∧ IsNamed pair.toList := by
    rw [setPair?, Option.ite_none_right_eq_some, ← isNamed_iff, Option.some.injEq,
      ← String.toList_inj, String.toList_ofList]
    constructor
    · intro same
      rw [← same.2]
      exact ⟨rfl, same.1⟩
    · intro same
      rw [← same.1]
      exact ⟨same.2, rfl⟩
  rw [found]
  constructor
  · intro sets
    obtain ⟨segment, absent, leads, trimmed, named⟩ := sets
    rw [Text.headD_fields_iff.mpr ⟨absent, leads⟩]
    exact ⟨trimmed, named⟩
  · intro sets
    obtain ⟨absent, leads⟩ := Text.headD_fields_iff.mp (rfl : (Text.fields ';' text).headD [] = _)
    exact ⟨_, absent, leads, sets⟩

/-- What a value of a `Set-Cookie` field sets, if it is text and sets anything. -/
def pairOfValue? (value : Bytes) : Option String :=
  (Header.text? value).bind setPair?

theorem pairOfValue?_eq_some_iff {value : Bytes} {pair : String} :
    pairOfValue? value = some pair ↔ ∃ text, Header.text? value = some text ∧ Sets text pair := by
  simp only [pairOfValue?, Option.bind_eq_some_iff, sets_iff]

theorem setInOrder_iff {values : List Bytes} {pairs : List String} :
    SetInOrder values pairs ↔ values.filterMap pairOfValue? = pairs := by
  constructor
  · intro set
    induction set with
    | none => rfl
    | pair read sets later induction =>
        have found := pairOfValue?_eq_some_iff.mpr ⟨_, read, sets⟩
        rw [List.filterMap_cons_some found, induction]
    | @nothing value values pairs without later induction =>
        have unset : pairOfValue? value = none := by
          rw [Option.eq_none_iff_forall_ne_some]
          intro pair found
          obtain ⟨text, read, sets⟩ := pairOfValue?_eq_some_iff.mp found
          exact without text pair read sets
        rw [List.filterMap_cons_none unset, induction]
  · intro found
    induction values generalizing pairs with
    | nil =>
        subst found
        exact .none
    | cons value values induction =>
        cases set : pairOfValue? value with
        | none =>
            rw [List.filterMap_cons_none set] at found
            refine .nothing ?_ (induction found)
            intro text pair read sets
            cases set.symm.trans (pairOfValue?_eq_some_iff.mpr ⟨text, read, sets⟩)
        | some pair =>
            obtain ⟨text, read, sets⟩ := pairOfValue?_eq_some_iff.mp set
            rw [List.filterMap_cons_some set] at found
            subst found
            exact .pair read sets (induction rfl)

theorem setBy_setPairs (headers : Headers) : SetBy headers (setPairs headers) := by
  apply setInOrder_iff.mpr
  rw [setPairs, Headers.texts, List.filterMap_filterMap]
  rfl

/-- A text that stays as it is when it is joined to others and cut off again. -/
structure IsSingle (pair : String) : Prop where
  uncut : ';' ∉ pair.toList
  trimmed : Text.trim pair.toList = pair.toList

theorem Sets.isSingle {text : List Char} {pair : String} (sets : Sets text pair) :
    IsSingle pair := by
  obtain ⟨segment, absent, -, trimmed, -⟩ := sets
  constructor
  · rw [trimmed]
    exact fun member => absent (Text.mem_of_mem_trim member)
  · rw [trimmed, Text.trim_trim]

theorem SetInOrder.isSingle {values : List Bytes} {pairs : List String}
    (set : SetInOrder values pairs) : ∀ pair ∈ pairs, IsSingle pair := by
  induction set with
  | none => exact fun pair impossible => nomatch impossible
  | pair read sets later induction =>
      intro pair member
      rcases List.mem_cons.mp member with rfl | further
      · exact sets.isSingle
      · exact induction pair further
  | nothing without later induction => exact induction

/-- Cutting a joined text gives back what was joined. -/
theorem splitOn_joined? {pairs : List String} (single : ∀ pair ∈ pairs, IsSingle pair)
    {text : String} (joined : joined? pairs = some text) :
    (text.toList.splitOn ';').map Text.trim = pairs.map String.toList := by
  unfold joined? at joined
  split at joined
  next => cases joined
  next filled =>
    cases joined
    rw [← Text.fields_eq_splitOn]
    induction pairs with
    | nil => exact absurd rfl filled
    | cons first others induction =>
        have first' := single first List.mem_cons_self
        cases others with
        | nil =>
            rw [String.intercalate_singleton, Text.fields_of_absent first'.uncut,
              List.map_singleton, first'.trimmed, List.map_singleton]
        | cons second rest =>
            -- The text is cut at each mark; the blank after the mark goes with the trimming.
            have mark : "; ".toList = [';', ' '] := rfl
            rw [String.intercalate_cons_cons, String.toList_append, String.toList_append, mark,
              List.append_assoc, List.cons_append, List.cons_append, List.nil_append,
              Text.fields_append first'.uncut, List.map_cons, first'.trimmed,
              Text.fields_trim_cons_of_isBlank rfl (by decide),
              induction (fun pair member => single pair (List.mem_cons_of_mem _ member))
                (List.cons_ne_nil _ _)]
            rfl

theorem joined?_inj {first second : List String} (single : ∀ pair ∈ first, IsSingle pair)
    (single' : ∀ pair ∈ second, IsSingle pair) (same : joined? first = joined? second) :
    first = second := by
  cases joined : joined? second with
  | none =>
      rw [joined] at same
      rw [joined?_eq_none_iff.mp same, joined?_eq_none_iff.mp joined]
  | some text =>
      rw [joined] at same
      have parts := (splitOn_joined? single same).symm.trans (splitOn_joined? single' joined)
      exact (List.map_inj_right fun _ _ => String.toList_inj.mp).mp parts

end Http.Cookie

namespace Router

namespace Exchange

/-- A challenge came, and these pairs were set along with it. -/
def ChallengesWith (exchange : Exchange) (pairs : List String) : Prop :=
  ∃ answer realm nonce, exchange.reply.delivery = .answered answer ∧
    answer.Challenges realm nonce ∧ Http.Cookie.SetBy answer.headers pairs

/-- A redirect came, and these pairs were set along with it. -/
def RedirectsWith (exchange : Exchange) (pairs : List String) : Prop :=
  ∃ answer location, exchange.reply.delivery = .answered answer ∧ answer.LeadsTo location ∧
    Http.Cookie.SetBy answer.headers pairs

end Exchange

/-- The pairs that the router has set by the time of its challenge: those of a redirecting answer,
if the redirect stayed with the same host, and those of the challenge. -/
inductive Kept (exchanges : List Exchange) : List String → List String → Prop
  | direct {only : Exchange} {late : List String} (asked : gets exchanges = [only])
      (challenged : only.ChallengesWith late) : Kept exchanges [] late
  | elsewhere {first second : Exchange} {late : List String}
      (asked : gets exchanges = [first, second])
      (apart : first.request.url.host ≠ second.request.url.host)
      (challenged : second.ChallengesWith late) : Kept exchanges [] late
  | sameHost {first second : Exchange} {early late : List String}
      (asked : gets exchanges = [first, second])
      (same : first.request.url.host = second.request.url.host)
      (redirected : first.RedirectsWith early) (challenged : second.ChallengesWith late) :
      Kept exchanges early late

namespace LoginExchanges

variable {endpoint : Endpoint} {username password : String} {exchanges : List Exchange}

theorem exists_kept (shape : LoginExchanges endpoint username password exchanges)
    {last : Exchange} (isLast : (gets exchanges).getLast? = some last) {late : List String}
    (challenged : last.ChallengesWith late) : ∃ early, Kept exchanges early late := by
  have asked := shape.asked
  generalize questions : gets exchanges = asking at isLast asked
  cases asked with
  | never unaskable => cases isLast
  | once askable isGet ends =>
      cases isLast
      exact ⟨[], .direct questions challenged⟩
  | @twice first second answer target askable isGet arrived redirects goesOn again =>
      cases isLast
      by_cases same : first.request.url.host = second.request.url.host
      · obtain ⟨location, leads, -⟩ := redirects
        have set := Http.Cookie.setBy_setPairs answer.headers
        exact ⟨_, .sameHost questions same ⟨answer, location, arrived, leads, set⟩ challenged⟩
      · exact ⟨[], .elsewhere questions same challenged⟩

end LoginExchanges

theorem Exchange.ChallengesWith.isSingle {exchange : Exchange} {pairs : List String}
    (challenged : exchange.ChallengesWith pairs) : ∀ pair ∈ pairs, Http.Cookie.IsSingle pair := by
  obtain ⟨answer, realm, nonce, -, -, set⟩ := challenged
  exact set.isSingle

theorem Kept.isSingle {exchanges : List Exchange} {early late : List String}
    (kept : Kept exchanges early late) : ∀ pair ∈ early, Http.Cookie.IsSingle pair := by
  cases kept with
  | direct asked challenged => exact fun pair impossible => nomatch impossible
  | elsewhere asked apart challenged => exact fun pair impossible => nomatch impossible
  | sameHost asked same redirected challenged =>
      obtain ⟨answer, location, -, -, set⟩ := redirected
      exact set.isSingle

/-- The post gives back every pair that was set along with the challenge, and no attribute of any.
These are all the pairs that the router has set, exactly if a redirect on the same host has set
none. -/
theorem login_returns_cookies (address : String) (client : Client) (username password : String)
    (router : Behavior) (past : List Exchange) :
    let login := (Endpoint.ofAddress address client).login username password
    let exchanges := (login.run router past).exchanges
    ∀ post ∈ exchanges, post.request.method = .post →
      ∃ early late, Kept exchanges early late ∧
        post.request.cookie = Http.Cookie.joined? late ∧
        (post.request.cookie = Http.Cookie.joined? (early ++ late) ↔ early = []) ∧
        ∀ text, post.request.cookie = some text →
          (text.toList.splitOn ';').map Text.trim = late.map String.toList := by
  intro login exchanges post sent posts
  have shape : LoginExchanges _ username password exchanges :=
    (conversed_of_yields (Dialogue.yields_run router past _)).loginExchanges
  obtain ⟨last, answer, realm, nonce, isLast, arrived, challenges, -, -, cookie, -⟩ :=
    shape.of_post sent posts
  have challenged : last.ChallengesWith (Http.Cookie.setPairs answer.headers) :=
    ⟨answer, realm, nonce, arrived, challenges, Http.Cookie.setBy_setPairs answer.headers⟩
  obtain ⟨early, kept⟩ := shape.exists_kept isLast challenged
  rw [Http.Cookie.returned?_eq_joined?] at cookie
  refine ⟨early, _, kept, cookie, ?_, ?_⟩
  · -- A joined text tells its parts, so nothing can be in it that was set on the way.
    constructor
    · intro whole
      have single : ∀ pair ∈ early ++ Http.Cookie.setPairs answer.headers,
          Http.Cookie.IsSingle pair :=
        List.forall_mem_append.mpr ⟨kept.isSingle, challenged.isSingle⟩
      have same := Http.Cookie.joined?_inj challenged.isSingle single (cookie.symm.trans whole)
      exact List.self_eq_append_left.mp same
    · intro none
      rw [none, List.nil_append, cookie]
  · intro text given
    exact Http.Cookie.splitOn_joined? challenged.isSingle (cookie.symm.trans given)

theorem login_returns_cookies_direct :
    let router : Behavior := fun _ request =>
      match request.method with
      | .get => ⟨.answered ⟨401, [.ofText "x-ndm-realm" "router", .ofText "x-ndm-challenge" "abc",
          .ofText "set-cookie" "sid=abc; Path=/; HttpOnly", .ofText "set-cookie" "=none",
          .ofText "set-cookie" " lang=en "], .whole []⟩, 5⟩
      | .post => ⟨.answered ⟨200, [], .whole []⟩, 5⟩
    let login := (Endpoint.ofAddress "http://192.168.1.1" ⟨.tableless, 5000⟩).login "alice" "secret"
    let exchanges := (login.run router []).exchanges
    ∃ post ∈ exchanges, post.request.method = .post ∧
      post.request.cookie = some "sid=abc; lang=en" ∧
      ∃ early late, Kept exchanges early late ∧ post.request.cookie = Http.Cookie.joined? late := by
  intro router login exchanges
  obtain ⟨first, post, run, posts, cookie⟩ : ∃ first post, exchanges = [first, post] ∧
      post.request.method = .post ∧ post.request.cookie = some "sid=abc; lang=en" :=
    ⟨_, _, rfl, rfl, by rfl⟩
  have sent : post ∈ exchanges := by
    rw [run]
    exact List.mem_cons_of_mem _ List.mem_cons_self
  obtain ⟨early, late, kept, returned, -⟩ :=
    login_returns_cookies "http://192.168.1.1" ⟨.tableless, 5000⟩ "alice" "secret" router [] post
      sent posts
  exact ⟨post, sent, posts, cookie, early, late, kept, returned⟩

/-- A router that starts its session where it redirects from: the cookie is not given back. -/
theorem redirect_cookie_lost :
    let router : Behavior := fun past request =>
      match request.method, past with
      | .get, [] => ⟨.answered ⟨302, [.ofText "location" "http://192.168.1.1/auth2",
          .ofText "set-cookie" "sid=abc; Path=/"], .whole []⟩, 5⟩
      | .get, _ => ⟨.answered ⟨401, [.ofText "x-ndm-realm" "router",
          .ofText "x-ndm-challenge" "abc"], .whole []⟩, 5⟩
      | .post, _ => ⟨.answered ⟨200, [], .whole []⟩, 5⟩
    let login := (Endpoint.ofAddress "http://192.168.1.1" ⟨.tableless, 5000⟩).login "alice" "secret"
    let exchanges := (login.run router []).exchanges
    Kept exchanges ["sid=abc"] [] ∧ Http.Cookie.joined? ["sid=abc"] = some "sid=abc" ∧
      ∃ post ∈ exchanges, post.request.method = .post ∧ post.request.cookie = none := by
  intro router login exchanges
  obtain ⟨first, second, post, run, posts, cookie⟩ : ∃ first second post,
      exchanges = [first, second, post] ∧ post.request.method = .post ∧
        post.request.cookie = none :=
    ⟨_, _, _, rfl, rfl, rfl⟩
  refine ⟨?_, by decide, post, ?_, posts, cookie⟩
  · refine .sameHost rfl rfl ?_ ?_
    · exact ⟨_, "http://192.168.1.1/auth2", rfl, leadsTo_iff.mpr (by rfl),
        Http.Cookie.setBy_setPairs _⟩
    · exact ⟨_, "router", "abc", rfl, challenges_iff.mpr ⟨rfl, by rfl⟩,
        Http.Cookie.setBy_setPairs _⟩
  · rw [run]
    simp

end Router

end RouterGate
