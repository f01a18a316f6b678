import RouterGate.Proofs.Router.LoginRequests
import RouterGate.Router.Wire
/-!
Two conversations in which the router gives the same answers. What a dialogue asks and comes to
depends on the answers alone, so logins with two passwords differ in one place only: the proof that
is posted, if there is a challenge.
-/
namespace RouterGate.Router

open Dialogue

/-- The same is answered at each place, as far as both conversations go. -/
inductive SameAnswers : List Exchange → List Exchange → Prop
  | stops (rest : List Exchange) : SameAnswers [] rest
  | stops' (rest : List Exchange) : SameAnswers rest []
  | goesOn {exchange exchange' : Exchange} {rest rest' : List Exchange}
      (same : exchange.reply = exchange'.reply) (later : SameAnswers rest rest') :
      SameAnswers (exchange :: rest) (exchange' :: rest')

namespace SameAnswers

variable {first first' second second' : List Exchange}

theorem of_replies (same : first.map (·.reply) = second.map (·.reply)) :
    SameAnswers first second := by
  induction first generalizing second with
  | nil => exact .stops second
  | cons exchange rest induction =>
      cases second with
      | nil => exact .stops' _
      | cons exchange' rest' =>
          obtain ⟨sameReply, later⟩ := List.cons.inj same
          exact .goesOn sameReply (induction later)

theorem left (same : SameAnswers (first ++ second) (first' ++ second')) :
    SameAnswers first first' := by
  induction first generalizing first' with
  | nil => exact .stops first'
  | cons exchange rest induction =>
      cases first' with
      | nil => exact .stops' _
      | cons exchange' rest' =>
          cases same with
          | goesOn same later => exact .goesOn same (induction later)

theorem right (same : SameAnswers (first ++ second) (first ++ second')) :
    SameAnswers second second' := by
  induction first with
  | nil => exact same
  | cons exchange rest induction =>
      cases same with
      | goesOn same later => exact induction later

end SameAnswers

/-- One dialogue, held with two routers that give the same answers. -/
theorem run_eq_of_sameAnswers {dialogue : Dialogue α} {router router' : Behavior}
    {past past' : List Exchange}
    (same : SameAnswers (dialogue.run router past).exchanges
      (dialogue.run router' past').exchanges) :
    dialogue.run router past = dialogue.run router' past' := by
  induction dialogue generalizing past past' with
  | done value => rfl
  | ask question next induction =>
      simp only [run_ask] at same ⊢
      cases same with
      | goesOn same later =>
          change router past question = router' past' question at same
          rw [same] at later ⊢
          rw [induction _ later]
  | note event rest induction =>
      simp only [run_note] at same ⊢
      rw [induction same]

/-- A dialogue that goes on from another one, held with two routers. -/
theorem run_seq_of_sameAnswers {dialogue : Dialogue α} {next next' : α → Dialogue β}
    {router router' : Behavior} {past past' : List Exchange}
    (same : SameAnswers ((dialogue >>= next).run router past).exchanges
      ((dialogue >>= next').run router' past').exchanges) :
    let first := dialogue.run router past
    dialogue.run router' past' = first ∧
      SameAnswers ((next first.value).run router (past ++ first.exchanges)).exchanges
        ((next' first.value).run router' (past' ++ first.exchanges)).exchanges := by
  simp only [run_seq] at same
  have equal := run_eq_of_sameAnswers same.left
  rw [← equal] at same
  exact ⟨equal.symm, same.right⟩

namespace Request

/-- A request with some body in the place of its own. -/
def saying (request : Request) (body : Bytes) : Request :=
  { request with body := some body }

/-- Whether something can be asked does not depend on what is said with it. -/
theorem build_body (method : Method) (address : String) (cookie : Option String) (body : Bytes)
    (client : Client) :
    build method address cookie (some body) client =
      (build method address cookie none client).map (·.saying body) := by
  unfold build
  cases Url.parse client.hosts address with
  | error defect => rfl
  | ok place =>
      cases place with
      | other text => rfl
      | web url =>
          simp only
          split
          next => rfl
          next =>
            split
            next => rfl
            next => rfl

/-- The fields of a request tell nothing of its body but the length. -/
theorem fields_saying (request : Request) {body body' : Bytes}
    (same : body.length = body'.length) :
    (request.saying body).fields = (request.saying body').fields := by
  simp only [fields, saying, same]
  rfl

end Request

section Lengths

/-- A hexadecimal digit is one byte, which is written as it is. -/
theorem length_escape_digit : ∀ n, n < 16 →
    ((String.utf8EncodeChar (Text.Hex.digit n)).flatMap Json.escape).length = 1 := by
  decide

theorem length_writeString_hexText (bytes : Bytes) :
    (Json.writeString (Bytes.ofString (hexText bytes))).length = 2 * bytes.length + 2 := by
  have plain : ((Bytes.ofString (hexText bytes)).flatMap Json.escape).length =
      2 * bytes.length := by
    rw [hexText, Bytes.ofString_ofList]
    induction bytes with
    | nil => rfl
    | cons b rest induction =>
        have small := b.toNat_lt
        have high := length_escape_digit (b.toNat / 16) (by omega)
        have low := length_escape_digit (b.toNat % 16) (by omega)
        simp only [Text.Hex.ofBytes, List.flatMap_cons, List.flatMap_append, List.flatMap_nil,
          List.length_append, List.length_cons, List.length_nil] at induction high low ⊢
        omega
  simp only [Json.writeString, List.length_cons, List.length_append, plain, List.length_nil]

/-- How long the posted document is tells of the name only. -/
theorem length_responseDocument (username password realm nonce : String) :
    (responseDocument username password realm nonce).length =
      (Json.writeString (Bytes.ofString username)).length + 88 := by
  have keys : (Json.writeString (Bytes.ofString "login")).length = 7 ∧
      (Json.writeString (Bytes.ofString "password")).length = 10 := by decide
  simp only [responseDocument, Json.record, Json.text, List.map_cons, List.map_nil, Json.write,
    Json.writeMembers, List.length_cons, List.length_append, length_writeString_hexText,
    Digest.length_sha256, keys, List.length_nil]
  omega

end Lengths

section Posting

variable {address : String} {cookie : Option String} {client : Client} {body body' : Bytes}
  {router router' : Behavior} {past past' : List Exchange}

/-- Two posts to one place with the same answer. -/
inductive Posts (body body' : Bytes) : List Exchange → List Exchange → Prop
  | unbuilt : Posts body body' [] []
  | posted {request : Request} {reply : Reply} (posts : request.method = .post) :
      Posts body body' [⟨request.saying body, reply⟩] [⟨request.saying body', reply⟩]

theorem posts_of_sameAnswers :
    let left := (send .post address cookie (some body) client).run router past
    let right := (send .post address cookie (some body') client).run router' past'
    SameAnswers left.exchanges right.exchanges →
      left.value = right.value ∧ left.events = right.events ∧
        Posts body body' left.exchanges right.exchanges := by
  intro left right same
  simp only [left, right, send, Request.build_body .post address cookie body,
    Request.build_body .post address cookie body'] at same ⊢
  cases built : Request.build .post address cookie none client with
  | error reason => exact ⟨rfl, rfl, .unbuilt⟩
  | ok request =>
      simp only [built, Except.map, run_ask] at same ⊢
      have sameReply : router past (request.saying body) =
          router' past' (request.saying body') := by
        cases same with
        | goesOn same later => exact same
      rw [sameReply]
      generalize router' past' (request.saying body') = reply
      have posts := Request.method_of_build built
      cases reply.delivery with
      | answered answer => exact ⟨rfl, rfl, .posted posts⟩
      | timedOut reason => exact ⟨rfl, rfl, .posted posts⟩
      | refused reason => exact ⟨rfl, rfl, .posted posts⟩
      | dropped reason => exact ⟨rfl, rfl, .posted posts⟩

end Posting

section Logins

variable {endpoint : Endpoint} {username first second : String} {router router' : Behavior}
  {past past' : List Exchange}

theorem answerChallenge_of_sameAnswers {address : String} {headers : Http.Headers}
    {challenge : Challenge} :
    let left := (endpoint.answerChallenge address headers challenge username first).run router past
    let right :=
      (endpoint.answerChallenge address headers challenge username second).run router' past'
    SameAnswers left.exchanges right.exchanges →
      left.value = right.value ∧ left.events = right.events ∧
        Posts (responseDocument username first challenge.realm challenge.nonce)
          (responseDocument username second challenge.realm challenge.nonce)
          left.exchanges right.exchanges := by
  intro left right same
  simp only [left, right, Endpoint.answerChallenge, run_seq, loginDocument_respond] at same ⊢
  obtain ⟨value, events, posts⟩ := posts_of_sameAnswers same.left
  rw [value, events]
  generalize (send .post address (Http.Cookie.returned? headers)
    (some (responseDocument username first challenge.realm challenge.nonce))
    endpoint.client).run router past = sent at posts ⊢
  generalize (send .post address (Http.Cookie.returned? headers)
    (some (responseDocument username second challenge.realm challenge.nonce))
    endpoint.client).run router' past' = sent' at posts ⊢
  cases sent'.value with
  | error fault => simpa [run_pure] using posts
  | ok answer =>
      simp only
      split
      next => simpa [run_pure] using posts
      next => simpa [run_pure, run_say] using posts

/-- Two logins with the same name. Only the proofs of the passwords tell them apart, and those are
made for one challenge, which was the last answer before. -/
inductive AlikeButProof (username first second : String) : List Exchange → List Exchange → Prop
  | unproved {questions : List Exchange} (asked : gets questions = questions) :
      AlikeButProof username first second questions questions
  | proved {questions : List Exchange} {last : Exchange} {answer : Answer} {realm nonce : String}
      {request : Request} {reply : Reply} (asked : gets questions = questions)
      (isLast : questions.getLast? = some last) (arrived : last.reply.delivery = .answered answer)
      (challenges : answer.Challenges realm nonce) (posts : request.method = .post) :
      AlikeButProof username first second
        (questions ++ [⟨request.saying (responseDocument username first realm nonce), reply⟩])
        (questions ++ [⟨request.saying (responseDocument username second realm nonce), reply⟩])

theorem AlikeButProof.of_posts {questions more more' : List Exchange} {last : Exchange}
    {answer : Answer} {realm nonce : String} (asked : gets questions = questions)
    (isLast : questions.getLast? = some last) (arrived : last.reply.delivery = .answered answer)
    (challenges : answer.Challenges realm nonce)
    (posts : Posts (responseDocument username first realm nonce)
      (responseDocument username second realm nonce) more more') :
    AlikeButProof username first second (questions ++ more) (questions ++ more') := by
  cases posts with
  | unbuilt =>
      rw [List.append_nil]
      exact .unproved asked
  | posted posts => exact .proved asked isLast arrived challenges posts

theorem login_of_sameAnswers :
    let left := (endpoint.login username first).run router past
    let right := (endpoint.login username second).run router' past'
    SameAnswers left.exchanges right.exchanges →
      left.value = right.value ∧ left.events = right.events ∧
        AlikeButProof username first second left.exchanges right.exchanges := by
  intro left right same
  have probed : Probed endpoint none ((endpoint.probe none).run router past).exchanges
      ((endpoint.probe none).run router past).value := probed_of_yields (yields_run router past _)
  have asked := (probed.asked rfl).gets_eq
  simp only [left, right, Endpoint.login] at same ⊢
  obtain ⟨equal, later⟩ := run_seq_of_sameAnswers same
  simp only [run_seq, equal]
  generalize (endpoint.probe none).run router past = probe at probed asked later ⊢
  have silent : AlikeButProof username first second (probe.exchanges ++ [])
      (probe.exchanges ++ []) := by
    rw [List.append_nil]
    exact .unproved asked
  cases reached : probe.value with
  | error fault => exact ⟨rfl, rfl, silent⟩
  | ok place =>
      obtain ⟨address, answer⟩ := place
      rw [reached] at probed later
      by_cases trusted : answer.status = 200
      · simp only [if_pos trusted] at later ⊢
        exact ⟨rfl, rfl, silent⟩
      by_cases unauthorized : answer.status = 401
      · simp only [if_neg trusted, if_pos unauthorized] at later ⊢
        cases challenged : Challenge.ofHeaders answer.headers with
        | error fault => exact ⟨rfl, rfl, silent⟩
        | ok challenge =>
            simp only [challenged] at later ⊢
            obtain ⟨value, events, posts⟩ := answerChallenge_of_sameAnswers later
            rw [value, events]
            refine ⟨rfl, rfl, ?_⟩
            have challenges := challenges_iff.mpr ⟨unauthorized, challenged⟩
            obtain ⟨before, last, isLast, -, arrived⟩ := probed.of_ok
            have isLast' : probe.exchanges.getLast? = some last := by
              rw [isLast, List.getLast?_concat]
            exact .of_posts asked isLast' arrived challenges posts
      · simp only [if_neg trusted, if_neg unauthorized] at later ⊢
        exact ⟨rfl, rfl, silent⟩

end Logins

/-- The realm of the challenge that a login had to answer. -/
def OffersRealm (exchanges : List Exchange) (realm : String) : Prop :=
  ∃ last answer nonce, (gets exchanges).getLast? = some last ∧
    last.reply.delivery = .answered answer ∧ answer.Challenges realm nonce

namespace AlikeButProof

variable {username first second : String} {left right : List Exchange}

theorem replies_eq (alike : AlikeButProof username first second left right) :
    left.map (·.reply) = right.map (·.reply) := by
  cases alike with
  | unproved asked => rfl
  | proved asked isLast arrived challenges posts =>
      rw [List.map_append, List.map_append, List.map_singleton, List.map_singleton]

/-- On the wire too, a password shows nowhere else: not even the length of the proof tells it. -/
theorem fields_eq (alike : AlikeButProof username first second left right) :
    left.map (·.request.fields) = right.map (·.request.fields) := by
  cases alike with
  | unproved asked => rfl
  | @proved _ _ _ realm nonce request _ asked isLast arrived challenges posts =>
      have lengths : (responseDocument username first realm nonce).length =
          (responseDocument username second realm nonce).length := by
        rw [length_responseDocument, length_responseDocument]
      rw [List.map_append, List.map_append, List.map_singleton, List.map_singleton,
        request.fields_saying lengths]

/-- Passwords with one hash prove themselves alike. -/
theorem eq_of_credentialHash (alike : AlikeButProof username first second left right)
    (hashes : ∀ realm, OffersRealm left realm →
      credentialHash username realm first = credentialHash username realm second) :
    left = right := by
  cases alike with
  | unproved asked => rfl
  | @proved _ last answer realm nonce request reply asked isLast arrived challenges posts =>
      have onlyPost := gets_concat asked
        ⟨request.saying (responseDocument username first realm nonce), reply⟩ posts
      have sameHash := hashes realm ⟨last, answer, nonce, by rw [onlyPost, isLast], arrived,
        challenges⟩
      have documents : responseDocument username first realm nonce =
          responseDocument username second realm nonce := by
        simp only [credentialHash] at sameHash
        simp only [responseDocument, sameHash]
      rw [documents]

end AlikeButProof

end RouterGate.Router
