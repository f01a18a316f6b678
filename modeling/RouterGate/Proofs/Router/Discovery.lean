import RouterGate.Gateway.Basic
import RouterGate.Proofs.Router.LoginRequests
/-!
Where the router is found. Its interfaces are asked about in a fixed order until one of them tells
an address, and the address is a guess exactly if all of them were asked about in vain.
-/
namespace RouterGate

namespace Router

/-- A complete and successful answer that tells the address of an interface. -/
structure Answer.Tells (answer : Answer) (address : String) : Prop where
  succeeds : 200 ≤ answer.status ∧ answer.status ≤ 299
  reads : ∃ content interface, answer.body = .whole content ∧
    Interface.read content = .ok interface ∧ Text.trim interface.address.toList ≠ [] ∧
    address = String.ofList (Text.trim interface.address.toList)

/-- One attempt to learn the address of an interface. -/
structure Attempt where
  name : String
  exchanges : List Exchange
  found : Option String

/-- How an attempt can go. It is in vain if there is no request for it, and if nothing came back
that tells an address. -/
inductive Attempt.Goes (management : Management) : Attempt → Prop
  | unaskable {name : String}
      (unaskable : ¬IsAskable management.client.hosts (management.interfaceUrl name)) :
      Goes management ⟨name, [], none⟩
  | useless {name : String} {request : Request} {reply : Reply}
      (askable : IsAskable management.client.hosts (management.interfaceUrl name))
      (isGet : request.IsGet management.client.hosts (management.interfaceUrl name) none)
      (useless : ∀ answer address, reply.delivery = .answered answer → ¬answer.Tells address) :
      Goes management ⟨name, [⟨request, reply⟩], none⟩
  | useful {name address : String} {request : Request} {reply : Reply} {answer : Answer}
      (askable : IsAskable management.client.hosts (management.interfaceUrl name))
      (isGet : request.IsGet management.client.hosts (management.interfaceUrl name) none)
      (arrived : reply.delivery = .answered answer) (tells : answer.Tells address) :
      Goes management ⟨name, [⟨request, reply⟩], some address⟩

namespace Interface

theorem ipv4?_eq_some_iff {interface : Interface} {address : String} :
    interface.ipv4? = some address ↔ Text.trim interface.address.toList ≠ [] ∧
      address = String.ofList (Text.trim interface.address.toList) := by
  simp only [ipv4?, List.isEmpty_iff]
  split
  next blank => simp [blank]
  next told => simp [told, eq_comm]

end Interface

namespace Management

variable {name address : String}

/-- What the operator is told before an interface is asked about. -/
def asking (management : Management) (name : String) : Log.Event :=
  ⟨.trace, .interface, "RCI request", [("url", .shown (management.interfaceUrl name))]⟩

theorem readAnswer_tells_iff {answer : Answer} :
    (readAnswer name answer).toOption.bind Interface.ipv4? = some address ↔
      answer.Tells address := by
  have read_iff {content : Bytes} :
      (Interface.read content).toOption.bind Interface.ipv4? = some address ↔
        ∃ interface, Interface.read content = .ok interface ∧
          interface.ipv4? = some address := by
    cases Interface.read content with
    | error fault => simp [Except.toOption]
    | ok interface => simp [Except.toOption]
  simp only [Interface.ipv4?_eq_some_iff] at read_iff
  have success_iff :
      Http.isSuccess answer.status = true ↔ 200 ≤ answer.status ∧ answer.status ≤ 299 := by
    simp only [Http.isSuccess, Bool.and_eq_true, decide_eq_true_eq]
    omega
  unfold readAnswer
  constructor
  · intro told
    split at told
    next success =>
      refine ⟨success_iff.mp success, ?_⟩
      cases body : answer.body with
      | whole content =>
          rw [body] at told
          obtain ⟨interface, read, named, same⟩ := read_iff.mp told
          exact ⟨content, interface, rfl, read, named, same⟩
      | broken reason =>
          rw [body] at told
          cases told
      | stalled reason =>
          rw [body] at told
          cases told
    next failure => cases told
  · intro tells
    obtain ⟨success, content, interface, body, read, named, same⟩ := tells
    rw [if_pos (success_iff.mpr success), body]
    exact read_iff.mpr ⟨interface, read, named, same⟩

theorem readReply_tells_iff {reply : Reply} :
    (readReply name reply).toOption.bind Interface.ipv4? = some address ↔
      ∃ answer, reply.delivery = .answered answer ∧ answer.Tells address := by
  unfold readReply
  cases reply.delivery with
  | answered answer => simp [readAnswer_tells_iff]
  | timedOut reason => simp [Except.toOption]
  | refused reason => simp [Except.toOption]
  | dropped reason => simp [Except.toOption]

/-- What is exchanged and announced on the way is that of some attempts. -/
structure Accounts (management : Management) (outcome : Outcome α) (attempts : List Attempt) :
    Prop where
  goes : ∀ attempt ∈ attempts, attempt.Goes management
  exchanges : outcome.exchanges = attempts.flatMap (·.exchanges)
  announced : outcome.events.filter (·.source = .interface) =
    attempts.map fun attempt => management.asking attempt.name

namespace Accounts

variable {management : Management}

theorem nothing {outcome : Outcome α} (silent : outcome.exchanges = [])
    (quiet : outcome.events.filter (·.source = .interface) = []) :
    management.Accounts outcome [] := by
  refine ⟨?_, silent, quiet⟩
  intro attempt impossible
  cases impossible

theorem append {first : Outcome α} {second : Outcome β} {attempts later : List Attempt}
    (accounts : management.Accounts first attempts) (accounts' : management.Accounts second later) :
    management.Accounts (⟨second.value, first.exchanges ++ second.exchanges,
      first.events ++ second.events⟩ : Outcome β) (attempts ++ later) := by
  constructor
  · intro attempt member
    exact (List.mem_append.mp member).elim (accounts.goes attempt) (accounts'.goes attempt)
  · rw [List.flatMap_append, ← accounts.exchanges, ← accounts'.exchanges]
  · rw [List.filter_append, List.map_append, accounts.announced, accounts'.announced]

end Accounts

section Runs

variable (management : Management) (router : Behavior) (past : List Exchange) (name : String)

theorem run_addressOf? :
    let shown := (management.showInterface name).run router past
    let told := (management.addressOf? name).run router past
    told.value = shown.value.toOption.bind Interface.ipv4? ∧ told.exchanges = shown.exchanges ∧
      told.events.filter (·.source = .interface) =
        shown.events.filter (·.source = .interface) := by
  simp only [addressOf?, Dialogue.run_seq]
  generalize (management.showInterface name).run router past = shown
  cases shown.value with
  | error fault => simp [Except.toOption, Dialogue.run_say, Dialogue.run_pure]
  | ok interface =>
      cases told : interface.ipv4? with
      | none => simp [Except.toOption, told, Dialogue.run_say, Dialogue.run_pure]
      | some address => simp [Except.toOption, told, Dialogue.run_pure]

/-- Asking about an interface is one attempt. -/
theorem attempt_of_addressOf? :
    let told := (management.addressOf? name).run router past
    ∃ exchanges, management.Accounts told [⟨name, exchanges, told.value⟩] := by
  intro told
  obtain ⟨value, exchanges, events⟩ := management.run_addressOf? router past name
  change told.value = _ at value
  change told.exchanges = _ at exchanges
  change told.events.filter _ = _ at events
  cases built : Request.build .get (management.interfaceUrl name) none none
      management.client with
  | error reason =>
      simp only [showInterface, built, Dialogue.run_note, Dialogue.run_done]
        at value exchanges events
      refine ⟨[], ?_, exchanges, events⟩
      intro attempt member
      rw [List.mem_singleton.mp member, value]
      exact .unaskable (Request.not_isAskable_of_build rfl built)
  | ok request =>
      simp only [showInterface, built, Dialogue.run_note, Dialogue.run_ask, Dialogue.run_done]
        at value exchanges events
      refine ⟨[⟨request, router past request⟩], ?_, exchanges, events⟩
      intro attempt member
      rw [List.mem_singleton.mp member]
      have askable := Request.isAskable_of_build built
      have isGet := Request.isGet_of_build built
      cases found : told.value with
      | none =>
          apply Attempt.Goes.useless askable isGet
          intro answer address arrived tells
          rw [readReply_tells_iff.mpr ⟨answer, arrived, tells⟩, found] at value
          cases value
      | some address =>
          obtain ⟨answer, arrived, tells⟩ := readReply_tells_iff.mp (value.symm.trans found)
          exact .useful askable isGet arrived tells

end Runs

/-- Names that are tried one after another, until one of them is told with an address. -/
inductive Tried : List String → List Attempt → Option (String × String) → Prop
  | exhausted : Tried [] [] none
  | told {name address : String} {exchanges : List Exchange} {rest : List String} :
      Tried (name :: rest) [⟨name, exchanges, some address⟩] (some (name, address))
  | untold {name : String} {exchanges : List Exchange} {rest : List String}
      {attempts : List Attempt} {last : Option (String × String)}
      (later : Tried rest attempts last) :
      Tried (name :: rest) (⟨name, exchanges, none⟩ :: attempts) last

namespace Tried

variable {names : List String} {attempts : List Attempt} {last : Option (String × String)}

theorem names_prefix (tried : Tried names attempts last) :
    attempts.map (·.name) <+: names := by
  induction tried with
  | exhausted => exact List.prefix_rfl
  | told => exact List.prefix_append [_] _
  | untold later induction => exact List.cons_prefix_cons.mpr ⟨rfl, induction⟩

theorem of_none (tried : Tried names attempts none) :
    attempts.map (·.name) = names ∧ ∀ attempt ∈ attempts, attempt.found = none := by
  generalize same : none = last at tried
  induction tried with
  | exhausted => exact ⟨rfl, fun _ impossible => nomatch impossible⟩
  | told => cases same
  | untold later induction =>
      obtain ⟨all, untold⟩ := induction same
      exact ⟨congrArg (List.cons _) all, List.forall_mem_cons.mpr ⟨rfl, untold⟩⟩

theorem of_some (tried : Tried names attempts (some (name, address))) :
    ∃ before exchanges, attempts = before ++ [⟨name, exchanges, some address⟩] ∧
      ∀ attempt ∈ before, attempt.found = none := by
  generalize same : some (name, address) = last at tried
  induction tried with
  | exhausted => cases same
  | told =>
      cases same
      exact ⟨[], _, rfl, fun _ impossible => nomatch impossible⟩
  | untold later induction =>
      obtain ⟨before, exchanges, rfl, untold⟩ := induction same
      exact ⟨_ :: before, exchanges, rfl, List.forall_mem_cons.mpr ⟨rfl, untold⟩⟩

theorem ne_nil {rest : List String} (tried : Tried (name :: rest) attempts last) :
    attempts ≠ [] := by
  cases tried <;> exact List.cons_ne_nil _ _

/-- Nothing is found exactly if all was tried in vain. -/
theorem last_eq_none_iff (tried : Tried names attempts last) :
    last = none ↔
      attempts.length = names.length ∧ ∀ attempt ∈ attempts, attempt.found = none := by
  constructor
  · rintro rfl
    obtain ⟨all, untold⟩ := tried.of_none
    exact ⟨by rw [← all, List.length_map], untold⟩
  · intro untold
    cases last with
    | none => rfl
    | some told =>
        obtain ⟨before, exchanges, rfl, -⟩ := tried.of_some
        cases untold.2 _ (List.mem_append_right _ List.mem_cons_self)

end Tried

/-- Where a search leads: to what was told last, if anything was. -/
def targetOf (isFirst : Bool) : Option (String × String) → Target
  | none => ⟨usualAddress, .guess⟩
  | some (name, address) => ⟨"http://" ++ address, if isFirst then .first else .further name⟩

theorem isDegraded_targetOf {isFirst : Bool} {last : Option (String × String)} :
    (targetOf isFirst last).isDegraded = true ↔ last = none := by
  cases last with
  | none => simp [targetOf, Target.isDegraded]
  | some told => cases isFirst <;> simp [targetOf, Target.isDegraded]

theorem interfaceUrl_ofAddress (address : String) (client : Client) :
    ∃ base slashes, address.toList = base.toList ++ List.replicate slashes '/' ∧
      base.toList.getLast? ≠ some '/' ∧
      ∀ name, (ofAddress address client).interfaceUrl name =
        base ++ "/rci/show/interface/" ++ name := by
  obtain ⟨slashes, cut⟩ := Text.exists_eq_dropTrailing '/' address
  exact ⟨Text.dropTrailing '/' address, slashes, cut, Text.getLast?_dropTrailing '/' address,
    fun _ => rfl⟩

section Search

variable (management : Management) (router : Behavior)

theorem run_searchAmong (names : List String) (past : List Exchange) :
    let found := (management.searchAmong names).run router past
    ∃ attempts last, Tried names attempts last ∧ management.Accounts found attempts ∧
      found.value = targetOf false last := by
  induction names generalizing past with
  | nil => exact ⟨[], none, .exhausted, .nothing rfl rfl, rfl⟩
  | cons name rest induction =>
      obtain ⟨exchanges, accounts⟩ := management.attempt_of_addressOf? router past name
      simp only [searchAmong, Dialogue.run_seq]
      generalize (management.addressOf? name).run router past = told at accounts ⊢
      cases found : told.value with
      | some address =>
          rw [found] at accounts
          exact ⟨_, _, .told, accounts.append (.nothing rfl rfl), rfl⟩
      | none =>
          rw [found] at accounts
          obtain ⟨attempts, last, tried, later, value⟩ := induction (past ++ told.exchanges)
          exact ⟨_, last, .untold tried, accounts.append later, value⟩

/-- The first interface is asked about a second time if it was in vain. -/
theorem run_search (past : List Exchange) :
    let found := management.search.run router past
    ∃ attempts last, Tried (firstInterface :: furtherInterfaces) attempts last ∧
      management.Accounts found attempts ∧
      found.value = targetOf (attempts.length == 1) last := by
  obtain ⟨exchanges, accounts⟩ := management.attempt_of_addressOf? router past firstInterface
  simp only [search, Dialogue.run_seq]
  generalize (management.addressOf? firstInterface).run router past = told at accounts ⊢
  cases found : told.value with
  | some address =>
      rw [found] at accounts
      exact ⟨_, _, .told, accounts.append (.nothing rfl rfl), rfl⟩
  | none =>
      rw [found] at accounts
      obtain ⟨attempts, last, tried, later, value⟩ :=
        management.run_searchAmong router furtherInterfaces (past ++ told.exchanges)
      have further : (attempts.length + 1 == 1) = false := by
        cases tried <;> rfl
      refine ⟨_, last, .untold tried, accounts.append later, ?_⟩
      rw [List.length_cons, further]
      exact value

theorem run_discover (past : List Exchange) :
    let found := management.discover.run router past
    ∃ attempts last, Tried (firstInterface :: furtherInterfaces) attempts last ∧
      management.Accounts found attempts ∧
      found.value = targetOf (attempts.length == 1) last := by
  obtain ⟨attempts, last, tried, accounts, value⟩ := management.run_search router past
  rw [discover, Dialogue.run_seq]
  simp only [Dialogue.run_say, Dialogue.run_pure]
  generalize management.search.run router past = searched at accounts value ⊢
  have quiet : [searched.value.event].filter (·.source = .interface) = [] := by
    rw [Target.event]
    cases searched.value.isDegraded <;> rfl
  have silent : management.Accounts
      (⟨searched.value, [], [searched.value.event]⟩ : Outcome Target) [] := .nothing rfl quiet
  refine ⟨attempts, last, tried, ?_, value⟩
  rw [← List.append_nil attempts]
  exact accounts.append silent

end Search

end Management

end Router

theorem Gateway.run_ofPlan (hosts : Url.HostMapping) {plan : AuthPlan}
    (delegated : plan.mode = .delegated) (now : Nat) (router : Router.Behavior)
    (past : List Router.Exchange) :
    let management := Router.Management.ofAddress plan.rciUrl ⟨hosts, plan.routerTimeout⟩
    let discovered := management.discover.run router past
    let built := (ofPlan hosts plan now).run router past
    built.value = ofTarget hosts plan discovered.value (now + discovered.elapsed) ∧
      built.exchanges = discovered.exchanges := by
  simp only [ofPlan, prepare, delegated, Router.Dialogue.run_seq, Router.Dialogue.run_timed,
    Router.Dialogue.run_pure, List.append_nil]
  exact ⟨trivial, List.append_nil _⟩

/-- A gateway for a target takes logins at its address, and knows whether that is a guess. -/
theorem Gateway.ofTarget_eq (hosts : Url.HostMapping) (plan : AuthPlan) (target : Router.Target)
    (moment : Nat) :
    (ofTarget hosts plan target moment).mode = .delegated ∧
      (∃ base slashes, target.baseUrl.toList = base.toList ++ List.replicate slashes '/' ∧
        base.toList.getLast? ≠ some '/' ∧
        (ofTarget hosts plan target moment).routerUrl? = some base) ∧
      (ofTarget hosts plan target moment).isDegraded = target.isDegraded := by
  obtain ⟨slashes, cut⟩ := Text.exists_eq_dropTrailing '/' target.baseUrl
  exact ⟨rfl, ⟨_, slashes, cut, Text.getLast?_dropTrailing '/' target.baseUrl, rfl⟩, rfl⟩

/-- Whatever the router does, its interfaces are asked about in their order, up to the first that
tells an address. That address is where the gateway takes logins; if all were asked about in vain,
it is a guess and the gateway knows that, which is not so in any other case. -/
theorem target_discovery (hosts : Url.HostMapping) (plan : AuthPlan) (now : Nat)
    (router : Router.Behavior) (past : List Router.Exchange) :
    let management := Router.Management.ofAddress plan.rciUrl ⟨hosts, plan.routerTimeout⟩
    let discovered := management.discover.run router past
    let target := discovered.value
    (∃ base slashes, plan.rciUrl.toList = base.toList ++ List.replicate slashes '/' ∧
      base.toList.getLast? ≠ some '/' ∧
      ∀ name, management.interfaceUrl name = base ++ "/rci/show/interface/" ++ name) ∧
    (∃ attempts : List Router.Attempt, attempts ≠ [] ∧
      attempts.map (·.name) <+: ["Bridge0", "Bridge0", "Home", "ISP"] ∧
      management.Accounts discovered attempts ∧
      ((∃ before last address, attempts = before ++ [last] ∧
          (∀ attempt ∈ before, attempt.found = none) ∧ last.found = some address ∧
          target = ⟨"http://" ++ address, if before = [] then .first else .further last.name⟩) ∨
        (attempts.length = 4 ∧ (∀ attempt ∈ attempts, attempt.found = none) ∧
          target = ⟨"http://192.168.1.1", .guess⟩)) ∧
      (target.isDegraded = true ↔
        attempts.length = 4 ∧ ∀ attempt ∈ attempts, attempt.found = none)) ∧
    (plan.mode = .delegated →
      let gateway := (Gateway.ofPlan hosts plan now).run router past
      gateway.exchanges = discovered.exchanges ∧ gateway.value.mode = .delegated ∧
        (∃ base slashes, target.baseUrl.toList = base.toList ++ List.replicate slashes '/' ∧
          base.toList.getLast? ≠ some '/' ∧ gateway.value.routerUrl? = some base) ∧
        gateway.value.isDegraded = target.isDegraded) := by
  intro management discovered target
  obtain ⟨attempts, last, tried, accounts, value⟩ := management.run_discover router past
  change target = _ at value
  refine ⟨Router.Management.interfaceUrl_ofAddress plan.rciUrl ⟨hosts, plan.routerTimeout⟩,
    ⟨attempts, tried.ne_nil, tried.names_prefix, accounts, ?_, ?_⟩, ?_⟩
  · cases last with
    | none =>
        obtain ⟨all, untold⟩ := tried.last_eq_none_iff.mp rfl
        exact .inr ⟨all, untold, value⟩
    | some told =>
        obtain ⟨before, exchanges, rfl, untold⟩ := tried.of_some
        refine .inl ⟨before, _, told.2, rfl, untold, rfl, ?_⟩
        rw [value]
        cases before with
        | nil => rfl
        | cons first rest => simp [Router.Management.targetOf]
  · rw [value, Router.Management.isDegraded_targetOf]
    exact tried.last_eq_none_iff
  · intro delegated gateway
    obtain ⟨built, exchanges⟩ := Gateway.run_ofPlan hosts delegated now router past
    change gateway.value = Gateway.ofTarget hosts plan target _ at built
    rw [built]
    exact ⟨exchanges, Gateway.ofTarget_eq hosts plan target _⟩

/-- An interface that has the usual address of a router tells it, which is no guess. -/
theorem target_discovery_usual_address :
    let plan : AuthPlan := ⟨.delegated, "", "", "http://localhost:79/", .session, 0, 0, 0, 5000⟩
    let told : Router.Answer :=
      ⟨200, [], .whole (Bytes.ofString "\x7b\"address\": \" 192.168.1.1 \"\x7d")⟩
    let router : Router.Behavior := fun past _ =>
      if past.isEmpty then ⟨.timedOut "operation timed out", 5000⟩ else ⟨.answered told, 5⟩
    let management := Router.Management.ofAddress plan.rciUrl ⟨.tableless, plan.routerTimeout⟩
    let discovered := management.discover.run router []
    let gateway := (Gateway.ofPlan .tableless plan 0).run router []
    plan.mode = .delegated ∧
      discovered.value = ⟨"http://192.168.1.1", .further "Bridge0"⟩ ∧
      gateway.exchanges = discovered.exchanges ∧ gateway.value.isDegraded = false := by
  intro plan told router management discovered gateway
  obtain ⟨-, -, ready⟩ := target_discovery .tableless plan 0 router []
  obtain ⟨exchanges, -, -, degraded⟩ := ready rfl
  have found : discovered.value = ⟨"http://192.168.1.1", .further "Bridge0"⟩ := by
    decide +kernel
  refine ⟨rfl, found, exchanges, degraded.trans ?_⟩
  rw [found]
  rfl

end RouterGate
