import RouterGate.Fault.Report
import RouterGate.Proofs.Router.LoginOutcome
import RouterGate.Proofs.Text.Occurs
import RouterGate.Proofs.Url.Spaceless
/-!
Why the router is out of reach: an answer that took too long, or a connection that was not there.
The text of the outage has to tell them apart, and it tells the address too.
-/
namespace RouterGate

namespace Text

def saysTimedOut (text : String) : Bool :=
  occursIn "timed out".toList text.toList

theorem saysTimedOut_iff {text : String} :
    saysTimedOut text = true ↔ "timed out".toList <:+: text.toList :=
  occursIn_iff

theorem IsSpaceless.saysTimedOut_eq {text : String} (spaceless : IsSpaceless text) :
    saysTimedOut text = false := by
  have absent : ¬"timed out".toList <:+: text.toList :=
    not_infix_of_absent (by decide : ' ' ∈ "timed out".toList) spaceless
  rw [← saysTimedOut_iff] at absent
  exact Bool.not_eq_true _ ▸ absent

end Text

open Text (saysTimedOut saysTimedOut_iff)

namespace Outage

theorem saysTimedOut_timedOut (address : String) :
    saysTimedOut (Outage.timedOut address).message = true := by
  have text : (Outage.timedOut address).message.toList =
      ("request to ".toList ++ address.toList ++ [' ']) ++ "timed out".toList := by
    show ("request to " ++ address ++ " timed out").toList = _
    simp
  rw [saysTimedOut_iff, text]
  exact (List.suffix_append _ _).isInfix

theorem saysTimedOut_lost (address reason : String) :
    saysTimedOut (Outage.lost address reason).message =
      (saysTimedOut address || saysTimedOut reason) := by
  have text : (Outage.lost address reason).message.toList =
      address.toList ++ ':' :: ' ' :: reason.toList := by
    show (address ++ ": " ++ reason).toList = _
    simp
  have after : "timed out".toList <:+: ' ' :: reason.toList ↔
      "timed out".toList <:+: reason.toList := by
    rw [List.infix_cons_iff, or_iff_right]
    have first : "timed out".toList = 't' :: "imed out".toList := by decide
    rw [first, List.cons_prefix_cons]
    exact fun early => absurd early.1 (by decide)
  rw [Bool.eq_iff_iff, Bool.or_eq_true, saysTimedOut_iff, saysTimedOut_iff, saysTimedOut_iff,
    text, Text.infix_append_cons_iff (by decide), after]

end Outage

section Codes

variable {cause : Outage}

theorem Fault.code_of_saysTimedOut (late : saysTimedOut cause.message = true) :
    (Fault.unreachable cause).code = .connectionTimeout :=
  if_pos late

theorem Fault.code_of_not_saysTimedOut (silent : saysTimedOut cause.message = false) :
    (Fault.unreachable cause).code = .networkUnreachable := by
  refine if_neg ?_
  rw [← saysTimedOut, silent]
  exact Bool.false_ne_true

end Codes

namespace Router

theorem code_of_quiet {address reason : String} (quiet : saysTimedOut address = false)
    (candid : saysTimedOut reason = false) :
    (Fault.unreachable (.lost address reason)).code = .networkUnreachable := by
  apply Fault.code_of_not_saysTimedOut
  rw [Outage.saysTimedOut_lost, quiet, candid, Bool.false_or]

theorem Endpoint.saysTimedOut_authUrl (endpoint : Endpoint) :
    saysTimedOut endpoint.authUrl = saysTimedOut endpoint.baseUrl := by
  have text : endpoint.authUrl.toList = endpoint.baseUrl.toList ++ '/' :: "auth".toList := by
    simp [authUrl, String.toList_append]
  have after : ¬"timed out".toList <:+: "auth".toList :=
    Text.not_infix_of_absent (by decide : ' ' ∈ "timed out".toList) (by decide)
  rw [Bool.eq_iff_iff, saysTimedOut_iff, saysTimedOut_iff, text,
    Text.infix_append_cons_iff (by decide), or_iff_left after]

namespace Exchange

/-- The answer was waited for in vain. -/
def timesOut (exchange : Exchange) : Bool :=
  match exchange.reply.delivery with
  | .timedOut _ => true
  | _ => false

/-- There was no connection, or it ended without an answer. -/
def isLost (exchange : Exchange) : Bool :=
  match exchange.reply.delivery with
  | .refused _ => true
  | .dropped _ => true
  | _ => false

/-- A connection is lost with a text that speaks of a timeout. -/
def misleads (exchange : Exchange) : Bool :=
  match exchange.reply.delivery with
  | .refused reason => saysTimedOut reason
  | .dropped reason => saysTimedOut reason
  | _ => false

end Exchange

def AllAnswered (exchanges : List Exchange) : Prop :=
  ∀ exchange ∈ exchanges, ∃ answer, exchange.reply.delivery = .answered answer

namespace AllAnswered

variable {exchanges : List Exchange}

theorem singleton {exchange : Exchange} {answer : Answer}
    (arrived : exchange.reply.delivery = .answered answer) : AllAnswered [exchange] := by
  intro only member
  cases List.mem_singleton.mp member
  exact ⟨answer, arrived⟩

theorem any_append (answered : AllAnswered exchanges) (sign : Exchange → Bool)
    (absent : ∀ exchange answer, exchange.reply.delivery = .answered answer →
      sign exchange = false) (later : List Exchange) :
    (exchanges ++ later).any sign = later.any sign := by
  have none : exchanges.any sign = false := by
    rw [List.any_eq_false]
    intro exchange member
    obtain ⟨answer, arrived⟩ := answered exchange member
    rw [absent exchange answer arrived]
    exact Bool.false_ne_true
  rw [List.any_append, none, Bool.false_or]

end AllAnswered

/-- The two ways in which an address gets out of reach. -/
inductive Cut (address : String) (exchanges : List Exchange) : Outage → Prop
  | late (late : exchanges.any Exchange.timesOut = true)
      (held : exchanges.any Exchange.isLost = false) : Cut address exchanges (.timedOut address)
  | lost {reason : String} (inTime : exchanges.any Exchange.timesOut = false)
      (lost : exchanges.any Exchange.isLost = true)
      (told : exchanges.any Exchange.misleads = saysTimedOut reason) :
      Cut address exchanges (.lost address reason)

namespace Cut

variable {address : String} {exchanges : List Exchange} {cause : Outage}

theorem after {earlier : List Exchange} (answered : AllAnswered earlier)
    (cut : Cut address exchanges cause) : Cut address (earlier ++ exchanges) cause := by
  have timesOut := answered.any_append Exchange.timesOut
    (fun _ _ arrived => by simp only [Exchange.timesOut, arrived]) exchanges
  have isLost := answered.any_append Exchange.isLost
    (fun _ _ arrived => by simp only [Exchange.isLost, arrived]) exchanges
  have misleads := answered.any_append Exchange.misleads
    (fun _ _ arrived => by simp only [Exchange.misleads, arrived]) exchanges
  cases cut with
  | late late held => exact .late (timesOut.trans late) (isLost.trans held)
  | lost inTime lost told =>
      exact .lost (timesOut.trans inTime) (isLost.trans lost) (misleads.trans told)

theorem isLost_eq (cut : Cut address exchanges cause) :
    exchanges.any Exchange.isLost = !exchanges.any Exchange.timesOut := by
  cases cut with
  | late late held => rw [late, held, Bool.not_true]
  | lost inTime lost told => rw [inTime, lost, Bool.not_false]

/-- What an outage is called, if the client does not mislead. -/
theorem code_eq (cut : Cut address exchanges cause)
    (candid : exchanges.any Exchange.misleads = false) :
    (Fault.unreachable cause).code =
      if exchanges.any Exchange.timesOut || saysTimedOut address then .connectionTimeout
      else .networkUnreachable := by
  cases cut with
  | late late held =>
      rw [late, Bool.true_or, if_pos rfl]
      exact Fault.code_of_saysTimedOut (Outage.saysTimedOut_timedOut address)
  | @lost reason inTime lost told =>
      have text : saysTimedOut (Outage.lost address reason).message = saysTimedOut address := by
        rw [Outage.saysTimedOut_lost, ← told, candid, Bool.or_false]
      rw [inTime, Bool.false_or]
      cases named : saysTimedOut address with
      | true => exact Fault.code_of_saysTimedOut (text.trans named)
      | false => exact Fault.code_of_not_saysTimedOut (text.trans named)

end Cut

namespace Sent

variable {method : Method} {address : String} {cookie : Option String} {body : Option Bytes}
  {client : Client} {exchanges : List Exchange}

theorem allAnswered {answer : Answer}
    (sent : Sent method address cookie body client exchanges (.ok answer)) :
    AllAnswered exchanges := by
  obtain ⟨exchange, rfl, -, arrived⟩ := sent.of_ok
  exact .singleton arrived

theorem cut {cause : Outage}
    (sent : Sent method address cookie body client exchanges (.error (.unreachable cause))) :
    ∃ exchange, exchanges = [exchange] ∧
      Request.build method address cookie body client = .ok exchange.request ∧
      Cut address exchanges cause := by
  cases sent with
  | @lost request reply _ built silent =>
      refine ⟨⟨request, reply⟩, rfl, built, ?_⟩
      cases came : reply.delivery with
      | answered answer =>
          rw [came] at silent
          cases silent
      | timedOut reason =>
          rw [came] at silent
          cases silent
          exact .late (by simp [Exchange.timesOut, came]) (by simp [Exchange.isLost, came])
      | refused reason =>
          rw [came] at silent
          cases silent
          exact .lost (by simp [Exchange.timesOut, came]) (by simp [Exchange.isLost, came])
            (by simp [Exchange.misleads, came])
      | dropped reason =>
          rw [came] at silent
          cases silent
          exact .lost (by simp [Exchange.timesOut, came]) (by simp [Exchange.isLost, came])
            (by simp [Exchange.misleads, came])

end Sent

/-- The address that a login has come to by some questions: that of the endpoint, or one that it
sends on to. -/
def Endpoint.ComesTo (endpoint : Endpoint) (questions : List Exchange) (address : String) : Prop :=
  questions.length = 1 ∧ address = endpoint.authUrl ∨
    questions.length = 2 ∧ Text.IsSpaceless address

theorem Endpoint.ComesTo.saysTimedOut_eq {endpoint : Endpoint} {questions : List Exchange}
    {address : String} (comes : endpoint.ComesTo questions address) :
    saysTimedOut address = (saysTimedOut endpoint.baseUrl && questions.length == 1) := by
  rcases comes with ⟨once, rfl⟩ | ⟨twice, spaceless⟩
  · rw [endpoint.saysTimedOut_authUrl, once, beq_self_eq_true, Bool.and_true]
  · rw [spaceless.saysTimedOut_eq, twice]
    exact (Bool.and_false _).symm

/-- Whatever a redirect says, the place that is asked then has an address without spaces. -/
theorem isSpaceless_of_redirectTarget {hosts : Url.HostMapping}
    {address location target : String}
    (resolved : redirectTarget hosts address location = .ok target)
    (askable : IsAskable hosts target) : Text.IsSpaceless target := by
  obtain ⟨base, place, parsed, joined, rfl⟩ := resolves_iff.mpr resolved
  obtain ⟨url, again, -⟩ := askable
  cases place with
  | web found =>
      exact (Url.isSpaceless_join (Url.isSpaceless_parse parsed) joined).text
  | other text => exact absurd again (Url.parse_of_join_other joined url)

namespace Probed

variable {endpoint : Endpoint} {cookie : Option String} {exchanges : List Exchange}

theorem allAnswered {address : String} {answer : Answer}
    (probed : Probed endpoint cookie exchanges (.ok (address, answer))) :
    endpoint.ComesTo exchanges address ∧ AllAnswered exchanges := by
  cases probed with
  | direct answered stays =>
      have allAnswered := answered.allAnswered
      obtain ⟨exchange, rfl, -⟩ := answered.of_ok
      exact ⟨.inl ⟨rfl, rfl⟩, allAnswered⟩
  | redirected answered leads resolved beyond =>
      have allAnswered := List.forall_mem_append.mpr ⟨answered.allAnswered, beyond.allAnswered⟩
      obtain ⟨first, rfl, -⟩ := answered.of_ok
      obtain ⟨second, rfl, built, -⟩ := beyond.of_ok
      have askable := Request.isAskable_of_build built
      exact ⟨.inr ⟨rfl, isSpaceless_of_redirectTarget resolved askable⟩, allAnswered⟩

theorem cut {cause : Outage}
    (stopped : Probed endpoint cookie exchanges (.error (.unreachable cause))) :
    ∃ address, endpoint.ComesTo exchanges address ∧ Cut address exchanges cause := by
  cases stopped with
  | stopped stopped =>
      obtain ⟨exchange, rfl, -, cut⟩ := stopped.cut
      exact ⟨_, .inl ⟨rfl, rfl⟩, cut⟩
  | astray answered leads unresolved =>
      obtain ⟨exchange, -, built, -⟩ := answered.of_ok
      obtain ⟨cause, impossible⟩ :=
        redirectTarget_error (Request.isAskable_of_build built) unresolved
      cases impossible
  | stoppedBeyond answered leads resolved stopped =>
      have allAnswered := answered.allAnswered
      obtain ⟨first, rfl, -⟩ := answered.of_ok
      obtain ⟨second, rfl, built, cut⟩ := stopped.cut
      have askable := Request.isAskable_of_build built
      exact ⟨_, .inr ⟨rfl, isSpaceless_of_redirectTarget resolved askable⟩, cut.after allAnswered⟩

end Probed

theorem Conversed.cut {endpoint : Endpoint} {username password : String}
    {exchanges : List Exchange} {result : Except Fault Login} {cause : Outage}
    (conversed : Conversed endpoint username password exchanges result)
    (failed : result = .error (.unreachable cause)) :
    ∃ address, endpoint.ComesTo (gets exchanges) address ∧ Cut address exchanges cause := by
  cases conversed with
  | stopped stopped =>
      cases failed
      rw [(stopped.asked rfl).gets_eq]
      exact stopped.cut
  | trusted probed trusted => cases failed
  | strange probed untrusted strange => cases failed
  | unchallenged probed unauthorized missing =>
      cases failed
      obtain ⟨cause, impossible⟩ := ofHeaders_error missing
      cases impossible
  | posted probed unauthorized challenged posted =>
      obtain ⟨comes, allAnswered⟩ := probed.allAnswered
      rcases judgement_eq_error_iff.mp failed with rfl | ⟨impossible, -⟩
      · obtain ⟨post, rfl, built, cut⟩ := posted.cut
        rw [gets_concat (probed.asked rfl).gets_eq post (Request.method_of_build built)]
        exact ⟨_, comes, cut.after allAnswered⟩
      · cases impossible

/-- What the outage of a login is called, if the client does not mislead: the address of the router
can make it look like a timeout, as long as no other address has been asked. -/
theorem Conversed.code_eq {endpoint : Endpoint} {username password : String}
    {exchanges : List Exchange} {cause : Outage}
    (conversed : Conversed endpoint username password exchanges (.error (.unreachable cause)))
    (candid : exchanges.any Exchange.misleads = false) :
    (Fault.unreachable cause).code =
      if exchanges.any Exchange.timesOut ||
          (saysTimedOut endpoint.baseUrl && (gets exchanges).length == 1) then .connectionTimeout
      else .networkUnreachable := by
  obtain ⟨address, comes, cut⟩ := conversed.cut rfl
  rw [cut.code_eq candid, comes.saysTimedOut_eq]

/-- The code of an outage tells why the router is out of reach, if neither the client nor the
address of the router speaks of a timeout. -/
theorem Conversed.code {endpoint : Endpoint} {username password : String}
    {exchanges : List Exchange} {cause : Outage}
    (conversed : Conversed endpoint username password exchanges (.error (.unreachable cause)))
    (candid : exchanges.any Exchange.misleads = false)
    (quiet : exchanges.any Exchange.timesOut = true ∨ saysTimedOut endpoint.baseUrl = false) :
    (Fault.unreachable cause).code =
      if exchanges.any Exchange.timesOut then .connectionTimeout else .networkUnreachable := by
  rw [conversed.code_eq candid]
  rcases quiet with late | clear
  · rw [late, Bool.true_or]
  · rw [clear, Bool.false_and, Bool.or_false]

section Refused

open Dialogue

variable {method : Method} {address reason : String} {cookie : Option String}
  {body : Option Bytes} {client : Client} {request : Request} {router : Behavior}
  {past : List Exchange}

theorem run_send_answered {answer : Answer}
    (built : Request.build method address cookie body client = .ok request)
    (arrived : (router past request).delivery = .answered answer) :
    (send method address cookie body client).run router past =
      ⟨.ok answer, [⟨request, router past request⟩], []⟩ := by
  simp only [send, built, run_ask, arrived, run_done]

theorem run_send_refused
    (built : Request.build method address cookie body client = .ok request)
    (refused : (router past request).delivery = .refused reason) :
    (send method address cookie body client).run router past =
      ⟨.error (.unreachable (.lost address reason)), [⟨request, router past request⟩], []⟩ := by
  simp only [send, built, run_ask, refused, run_done]

variable {endpoint : Endpoint} (username password : String)
  (built : Request.build .get endpoint.authUrl none none endpoint.client = .ok request)

include built

theorem Endpoint.run_login_refused (refused : (router past request).delivery = .refused reason) :
    (endpoint.login username password).run router past =
      ⟨.error (.unreachable (.lost endpoint.authUrl reason)),
        [⟨request, router past request⟩], []⟩ := by
  rw [login, run_seq, probe, run_seq, run_send_refused built refused]
  rfl

theorem Endpoint.run_login_refused_beyond {location target : String} {answer : Answer}
    {second : Request} (arrived : (router past request).delivery = .answered answer)
    (leads : redirection? answer = some location)
    (resolved : redirectTarget endpoint.client.hosts endpoint.authUrl location = .ok target)
    (builtBeyond : Request.build .get target none none endpoint.client = .ok second)
    (refused : (router (past ++ [⟨request, router past request⟩]) second).delivery =
      .refused reason) :
    (endpoint.login username password).run router past =
      ⟨.error (.unreachable (.lost target reason)),
        [⟨request, router past request⟩,
          ⟨second, router (past ++ [⟨request, router past request⟩]) second⟩],
        [redirectNote target]⟩ := by
  rw [login, run_seq, probe, run_seq, run_send_answered built arrived]
  simp only [leads, resolved]
  rw [run_say, run_seq, run_send_refused builtBeyond refused]
  rfl

end Refused

/-- The address of the router is part of the text, and can make an outage look like a timeout. -/
theorem Endpoint.code_of_refused {endpoint : Endpoint} (reason : String)
    (late : saysTimedOut endpoint.baseUrl = true) :
    (Fault.unreachable (.lost endpoint.authUrl reason)).code = .connectionTimeout := by
  apply Fault.code_of_saysTimedOut
  rw [Outage.saysTimedOut_lost, endpoint.saysTimedOut_authUrl, late, Bool.true_or]

/-- When a login cannot reach the router, its code is 1001 if an answer was waited for in vain and
1004 if a connection was lost, wherever a redirect has led. Only an address of the router that
speaks of a timeout itself makes a connection lost there look like one. -/
theorem login_outage_code (address : String) (client : Client) (username password : String)
    (router : Behavior) (past : List Exchange) :
    let endpoint := Endpoint.ofAddress address client
    let outcome := (endpoint.login username password).run router past
    ∀ cause, outcome.value = .error (.unreachable cause) →
      (∀ exchange ∈ outcome.exchanges, exchange.misleads = false) →
      let number := (Fault.unreachable cause).code.number
      let late := ∃ exchange ∈ outcome.exchanges, exchange.timesOut = true
      let lost := ∃ exchange ∈ outcome.exchanges, exchange.isLost = true
      let disguised := "timed out".toList <:+: endpoint.baseUrl.toList ∧
        (gets outcome.exchanges).length = 1
      (lost ↔ ¬late) ∧
        (¬(lost ∧ disguised) → (number = 1001 ↔ late) ∧ (number = 1004 ↔ lost)) ∧
        (lost ∧ disguised → number = 1001) := by
  intro endpoint outcome cause failed honest number late lost disguised
  have conversed : Conversed endpoint username password outcome.exchanges outcome.value :=
    conversed_of_yields (Dialogue.yields_run router past _)
  rw [failed] at conversed
  have candid : outcome.exchanges.any Exchange.misleads = false := by
    rw [List.any_eq_false]
    intro exchange asked
    rw [honest exchange asked]
    exact Bool.false_ne_true
  obtain ⟨_, -, cut⟩ := conversed.cut rfl
  have late_iff : outcome.exchanges.any Exchange.timesOut = true ↔ late := List.any_eq_true
  have lost_iff : lost ↔ ¬late := by
    rw [← late_iff, Bool.not_eq_true, ← Bool.not_eq_true', ← cut.isLost_eq, List.any_eq_true]
  have disguised_iff : (saysTimedOut endpoint.baseUrl &&
      (gets outcome.exchanges).length == 1) = true ↔ disguised := by
    rw [Bool.and_eq_true, saysTimedOut_iff, beq_iff_eq]
  have value : number = if late ∨ disguised then 1001 else 1004 := by
    simp only [number, conversed.code_eq candid, Bool.or_eq_true, late_iff, disguised_iff]
    split <;> rfl
  refine ⟨lost_iff, ?_, ?_⟩
  · intro plain
    by_cases waited : late
    · have held : ¬lost := fun gone => lost_iff.mp gone waited
      rw [value, if_pos (.inl waited)]
      simp [waited, held]
    · have gone : lost := lost_iff.mpr waited
      have undisguised : ¬disguised := fun seems => plain ⟨gone, seems⟩
      rw [value, if_neg (not_or.mpr ⟨waited, undisguised⟩)]
      simp [waited, gone]
  · intro seems
    rw [value, if_pos (.inr seems.2)]

/-- A connection lost beyond a redirect is told as such, whatever the first address says. -/
theorem login_outage_code_beyond :
    let router : Behavior := fun past _ =>
      if past.isEmpty then
        ⟨.answered ⟨302, [.ofText "location" "http://10.0.0.1/auth"], .whole []⟩, 5⟩
      else ⟨.refused "refused", 5⟩
    let endpoint := Endpoint.ofAddress "http://192.168.1.1/timed out" ⟨.tableless, 5000⟩
    let outcome := (endpoint.login "alice" "secret").run router []
    ∃ cause, outcome.value = .error (.unreachable cause) ∧
      (∀ exchange ∈ outcome.exchanges, exchange.misleads = false) ∧
      (Fault.unreachable cause).code.number = 1004 := by
  intro router endpoint outcome
  have base : endpoint = ⟨"http://192.168.1.1/timed out", .tableless, 5000⟩ := by rfl
  obtain ⟨home, built⟩ : ∃ home, Request.build .get
      (Endpoint.authUrl ⟨"http://192.168.1.1/timed out", .tableless, 5000⟩) none none
      ⟨.tableless, 5000⟩ = .ok home := ⟨_, rfl⟩
  obtain ⟨beyond, builtBeyond⟩ : ∃ beyond, Request.build .get "http://10.0.0.1/auth" none none
      ⟨.tableless, 5000⟩ = .ok beyond := ⟨_, rfl⟩
  have leads : redirection? ⟨302, [.ofText "location" "http://10.0.0.1/auth"], .whole []⟩ =
      some "http://10.0.0.1/auth" := by decide
  have resolved : redirectTarget .tableless "http://192.168.1.1/timed out/auth"
      "http://10.0.0.1/auth" = .ok "http://10.0.0.1/auth" := by rfl
  have arrived : (router [] home).delivery =
      .answered ⟨302, [.ofText "location" "http://10.0.0.1/auth"], .whole []⟩ := rfl
  have run := Endpoint.run_login_refused_beyond "alice" "secret" built arrived leads resolved
    builtBeyond rfl
  rw [← base] at run
  have quiet : saysTimedOut "refused" = false := (Text.IsSpaceless.of_contains rfl).saysTimedOut_eq
  have failed : outcome.value = .error (.unreachable (.lost "http://10.0.0.1/auth" "refused")) :=
    congrArg Outcome.value run
  have spoken := congrArg Outcome.exchanges run
  have honest : ∀ exchange ∈ outcome.exchanges, exchange.misleads = false := by
    rw [show outcome.exchanges = _ from spoken]
    simp [Exchange.misleads, router, quiet]
  obtain ⟨-, plain, -⟩ := login_outage_code "http://192.168.1.1/timed out" ⟨.tableless, 5000⟩
    "alice" "secret" router [] _ failed honest
  refine ⟨_, failed, honest, (plain ?_).2.mpr ?_⟩
  · intro seems
    have once := seems.2.2
    rw [spoken] at once
    simp [gets, Request.method_of_build built, Request.method_of_build builtBeyond] at once
  · rw [spoken]
    simp [Exchange.isLost, router]

/-- An address that speaks of a timeout: nothing was waited for, and the code says so. -/
theorem lost_connection_called_timeout :
    let router := unreachable "refused"
    let endpoint := Endpoint.ofAddress "http://192.168.1.1/timed out" ⟨.tableless, 5000⟩
    let outcome := (endpoint.login "alice" "secret").run router []
    ∃ cause, outcome.value = .error (.unreachable cause) ∧
      (∀ exchange ∈ outcome.exchanges, exchange.misleads = false) ∧
      (∀ exchange ∈ outcome.exchanges, exchange.timesOut = false ∧ exchange.isLost = true) ∧
      (Fault.unreachable cause).code.number = 1001 := by
  intro router endpoint outcome
  have base : endpoint = ⟨"http://192.168.1.1/timed out", .tableless, 5000⟩ := by rfl
  obtain ⟨home, built⟩ : ∃ home, Request.build .get
      (Endpoint.authUrl ⟨"http://192.168.1.1/timed out", .tableless, 5000⟩) none none
      ⟨.tableless, 5000⟩ = .ok home := ⟨_, rfl⟩
  have refused : (router [] home).delivery = .refused "refused" := rfl
  have run := Endpoint.run_login_refused "alice" "secret" built refused
  rw [← base] at run
  have spoken := congrArg Outcome.exchanges run
  have quiet : saysTimedOut "refused" = false := (Text.IsSpaceless.of_contains rfl).saysTimedOut_eq
  have named : saysTimedOut endpoint.baseUrl = true :=
    saysTimedOut_iff.mpr ⟨"http://192.168.1.1/".toList, [], by decide⟩
  refine ⟨_, congrArg Outcome.value run, ?_, ?_,
    congrArg FaultCode.number (endpoint.code_of_refused "refused" named)⟩
  · rw [show outcome.exchanges = _ from spoken]
    simp [Exchange.misleads, router, unreachable, quiet]
  · rw [show outcome.exchanges = _ from spoken]
    simp [Exchange.timesOut, Exchange.isLost, router, unreachable]

end Router

end RouterGate
