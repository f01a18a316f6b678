import RouterGate.Proofs.Api.Pages
import RouterGate.Proofs.Service.Moves
/-!
Gateways never change their mode: whether strangers are let in is settled by the settings, before
the first request.
-/
namespace RouterGate

open Router.Dialogue

/-- What a gateway can become: one that asks no router stays what it is. -/
inductive Gateway.Evolves (gateway : Gateway) : Gateway → Prop
  | same : Evolves gateway gateway
  | delegated {kept : Gateway} (before : gateway.mode = .delegated)
      (after : kept.mode = .delegated) : Evolves gateway kept

namespace Gateway

theorem Evolves.trans {first second third : Gateway} (early : first.Evolves second)
    (late : second.Evolves third) : first.Evolves third := by
  cases early with
  | same => exact late
  | delegated before after =>
      cases late with
      | same => exact .delegated before after
      | delegated before' after' => exact .delegated before after'

theorem Evolves.mode_eq {gateway kept : Gateway} (evolves : gateway.Evolves kept) :
    kept.mode = gateway.mode := by
  cases evolves with
  | same => rfl
  | delegated before after => exact after.trans before.symm

theorem Evolves.eq_of_mode_ne {gateway kept : Gateway} (evolves : gateway.Evolves kept)
    (other : gateway.mode ≠ .delegated) : kept = gateway := by
  cases evolves with
  | same => rfl
  | delegated before after => exact absurd before other

variable {gateway kept : Gateway} {now : Nat} {exchanges : List Router.Exchange}

theorem evolves_of_trust {endpoint : Router.Endpoint} {trust next : Trust}
    (before : gateway.backend = .delegated endpoint trust)
    (after : kept.backend = .delegated endpoint next) : gateway.Evolves kept := by
  apply Evolves.delegated
  · simp only [mode, before]
  · simp only [mode, after]

theorem evolves_authorize {headers : Http.Headers} {decision : Decision}
    (held : (gateway.authorize now headers).Yields exchanges (decision, kept)) :
    gateway.Evolves kept := by
  unfold authorize at held
  split at held
  next =>
    cases (yields_done_iff.mp held).2
    exact .same
  next =>
    cases (yields_done_iff.mp held).2
    exact .same
  next =>
    cases (yields_done_iff.mp held).2
    exact .same
  next endpoint cache backend =>
    split at held
    next =>
      cases (yields_done_iff.mp held).2
      exact .same
    next =>
      obtain ⟨⟨isValid, next⟩, -, same⟩ := yields_map_iff.mp held
      cases same
      exact evolves_of_trust backend rfl

theorem evolves_login {username password : String} {draws : List Draw}
    {result : Except Fault LoginResult}
    (held : (gateway.login now username password draws).Yields exchanges (result, kept)) :
    gateway.Evolves kept := by
  unfold login at held
  split at held
  next endpoint store backend =>
    obtain ⟨⟨reached, next⟩, -, same⟩ := yields_map_iff.mp held
    cases same
    exact evolves_of_trust backend rfl
  next endpoint cache backend =>
    obtain ⟨⟨reached, next⟩, -, same⟩ := yields_map_iff.mp held
    cases same
    exact evolves_of_trust backend rfl
  next =>
    cases (yields_done_iff.mp held).2
    exact .same

theorem evolves_logout (gateway : Gateway) (token : Option String) :
    gateway.Evolves (gateway.logout token) := by
  unfold logout
  split
  next backend => exact evolves_of_trust backend rfl
  next => exact .same

theorem evolves_passTime (gateway : Gateway) (earlier later : Nat) :
    gateway.Evolves (gateway.passTime earlier later) := by
  unfold passTime
  split
  next backend => exact evolves_of_trust backend rfl
  next => exact .same

theorem evolves_shutdown (gateway : Gateway) : gateway.Evolves gateway.shutdown := by
  unfold shutdown
  split
  next backend => exact evolves_of_trust backend rfl
  next => exact .same

theorem evolves_reaped (gateway : Gateway) (now : Nat) :
    gateway.Evolves (gateway.reaped now) := by
  unfold reaped
  split
  next backend => exact evolves_of_trust backend rfl
  next => exact .same

theorem evolves_answered {host : Api.Host} {extra : List Api.ExtraPage} {draws : List Draw}
    {request : Api.Request} {response : Api.Response}
    (answered : Api.Answered host extra gateway now draws request exchanges response kept) :
    gateway.Evolves kept := by
  cases answered with
  | still noLogin noLogout => exact .same
  | login posts small read held => exact evolves_login held
  | logout posts => exact evolves_logout gateway _
  | guarded found asks held answers => exact evolves_authorize held

end Gateway

namespace Service

theorem act_evolves (router : Router.Behavior) (service : Service) (action : Action) :
    service.gateway.Evolves (service.act router action).2.gateway := by
  have held := act_yields router service action
  generalize (service.act router action).1.exchanges = exchanges at held
  generalize (service.act router action).1.result = result at held
  generalize (service.act router action).2.gateway = kept at held ⊢
  cases action with
  | authorize headers =>
      obtain ⟨decision, decides, -⟩ := authorize_yields_iff.mp held
      exact Gateway.evolves_authorize decides
  | check headers =>
      obtain ⟨-, -, rfl⟩ := check_yields_iff.mp held
      exact .same
  | login username password draws =>
      obtain ⟨reached, asked, -⟩ := login_yields_iff.mp held
      exact Gateway.evolves_login asked
  | logout token =>
      obtain ⟨-, -, rfl⟩ := logout_yields_iff.mp held
      exact Gateway.evolves_logout _ _
  | answer host extra request draws =>
      obtain ⟨response, asked, -⟩ := answer_yields_iff.mp held
      exact Gateway.evolves_answered (Api.answered_of_yields asked)
  | wait milliseconds =>
      obtain ⟨-, -, rfl⟩ := wait_yields_iff.mp held
      exact Gateway.evolves_passTime _ _ _
  | shutdown =>
      obtain ⟨-, -, rfl⟩ := shutdown_yields_iff.mp held
      exact Gateway.evolves_shutdown _

theorem play_evolves (router : Router.Behavior) (service : Service) (moves : List Move) :
    service.gateway.Evolves (service.play router moves).2.gateway := by
  refine play_holds router (fun _ later => service.gateway.Evolves later.gateway) ?_ ?_ .same moves
  · intro steps later action evolves
    exact evolves.trans (act_evolves router later action)
  · intro steps later evolves
    exact evolves.trans (later.gateway.evolves_reaped later.now)

theorem act_authorize (router : Router.Behavior) {service : Service} {headers : Http.Headers}
    {decision : Decision} {kept : Gateway}
    (decides : service.gateway.authorize service.now headers = .done (decision, kept)) :
    (service.act router (.authorize headers)).1.result = .decided decision := by
  obtain ⟨reached, held, came⟩ :=
    authorize_yields_iff.mp (act_yields router service (.authorize headers))
  rw [decides] at held
  cases (yields_done_iff.mp held).2
  exact came

end Service

/-- The headers of a stranger hold no credentials and no cookies. -/
def Http.Headers.AreBare (headers : Http.Headers) : Prop :=
  ∀ header ∈ headers, header.isNamed "authorization" = false ∧ header.isNamed "cookie" = false

section Strangers

variable {headers : Http.Headers}

theorem Http.Headers.values_eq_nil {name : String}
    (lacks : ∀ header ∈ headers, header.isNamed name = false) : values name headers = [] := by
  rw [values, List.map_eq_nil_iff, List.filter_eq_nil_iff]
  intro header member named
  rw [lacks header member] at named
  cases named

theorem Credentials.presented?_of_bare (bare : headers.AreBare) : presented? headers = none := by
  have lacks := Http.Headers.values_eq_nil fun header member => (bare header member).1
  simp only [presented?, Http.Headers.firstText?, lacks, List.head?_nil, Option.bind_none]
  rfl

theorem Http.Cookie.presented_of_bare (bare : headers.AreBare) : presented headers = [] := by
  have lacks := Http.Headers.values_eq_nil fun header member => (bare header member).2
  simp only [presented, Http.Headers.texts, lacks, List.filterMap_nil, List.flatMap_nil]

theorem Presented.ofHeaders?_of_bare (bare : headers.AreBare) : ofHeaders? headers = none := by
  simp only [ofHeaders?, Credentials.presented?_of_bare bare, routerCookies,
    Http.Cookie.presented_of_bare bare, List.filter_nil]

variable {gateway : Gateway}

theorem Gateway.authorize_unguarded (isOpen : gateway.mode = .unguarded) (now : Nat)
    (headers : Http.Headers) :
    gateway.authorize now headers = .done (.allowed .anonymous, gateway) := by
  unfold mode at isOpen
  split at isOpen
  next backend => simp only [authorize, backend]
  next => cases isOpen
  next => cases isOpen

/-- Only an unguarded gateway lets strangers in. -/
theorem Gateway.authorize_of_bare (isClosed : gateway.mode ≠ .unguarded) (now : Nat)
    (bare : headers.AreBare) :
    gateway.authorize now headers = .done (.denied, gateway) := by
  unfold authorize
  split
  next backend =>
    simp only [mode, backend, ne_eq, not_true_eq_false] at isClosed
  next expected backend =>
    simp only [Credentials.arePresented, Credentials.presented?_of_bare bare]
    rfl
  next endpoint store backend =>
    simp only [SessionStore.decide, SessionStore.presented?, Http.Cookie.presented_of_bare bare]
    rfl
  next endpoint cache backend => simp only [Presented.ofHeaders?_of_bare bare]

end Strangers

namespace Gateway

variable {hosts : Url.HostMapping} {plan : AuthPlan} {now : Nat}
  {exchanges : List Router.Exchange} {gateway : Gateway}

theorem built_of_yields (held : (ofPlan hosts plan now).Yields exchanges gateway) :
    gateway.mode = plan.mode ∧
      (plan.mode = .fixed → gateway = fixed plan.username plan.password) := by
  obtain ⟨first, built, second, rfl, prepares, later⟩ := yields_bind_iff.mp held
  simp only [yields_say_iff, yields_pure_iff] at later
  obtain ⟨rfl, rfl⟩ := later
  unfold prepare at prepares
  split at prepares
  next unguarded =>
    obtain ⟨-, rfl⟩ := yields_done_iff.mp prepares
    rw [unguarded]
    refine ⟨rfl, ?_⟩
    intro impossible
    cases impossible
  next fixed =>
    obtain ⟨-, rfl⟩ := yields_done_iff.mp prepares
    rw [fixed]
    exact ⟨rfl, fun _ => rfl⟩
  next delegated =>
    obtain ⟨target, -, rfl⟩ := yields_map_iff.mp prepares
    rw [delegated]
    refine ⟨rfl, ?_⟩
    intro impossible
    cases impossible

end Gateway

namespace Settings

/-- The settings ask for a gateway that lets everyone in. -/
def AskForNoGuard (settings : Settings) : Prop :=
  let word := Text.lower settings.authMode
  word = "none" ∨ word = "off" ∨ (word = "local" ∧ settings.password = "")

variable {settings : Settings} {plan : AuthPlan}

theorem modeChoice_eq_unguarded_iff :
    settings.modeChoice.1 = .unguarded ↔ settings.AskForNoGuard := by
  unfold modeChoice AskForNoGuard
  generalize Text.lower settings.authMode = word
  by_cases ndm : word = "ndm"
  · simp [ndm]
  by_cases fixed : word = "local"
  · by_cases empty : settings.password = "" <;> simp [fixed, empty]
  by_cases isOff : word = "none" ∨ word = "off"
  · simp only [if_neg ndm, if_neg fixed, if_pos isOff, true_iff]
    exact isOff.imp_right .inl
  · rw [not_or] at isOff
    by_cases empty : settings.password = "" <;> simp [ndm, fixed, isOff, empty]

theorem password_ne_of_fixed (isFixed : settings.modeChoice.1 = .fixed) :
    settings.password ≠ "" := by
  intro empty
  unfold modeChoice at isFixed
  simp only [empty, if_true] at isFixed
  repeat' split at isFixed
  all_goals cases isFixed

theorem modeChoice_of_unknown
    (unknown : Text.lower settings.authMode ∉ ["ndm", "local", "none", "off"]) :
    settings.modeChoice.1 = if settings.password = "" then .delegated else .fixed := by
  simp only [List.mem_cons, List.not_mem_nil, or_false, not_or] at unknown
  obtain ⟨ndm, fixed, none, off⟩ := unknown
  by_cases empty : settings.password = "" <;> simp [modeChoice, ndm, fixed, none, off, empty]

theorem plan_eq_ok (planned : settings.plan = .ok plan) :
    plan.mode = settings.modeChoice.1 ∧ plan.password = settings.password := by
  unfold Settings.plan at planned
  cases chosen : settings.delegationChoice with
  | error fault =>
      rw [chosen] at planned
      cases planned
  | ok delegation =>
      rw [chosen] at planned
      cases planned
      exact ⟨rfl, rfl⟩

end Settings

/-- Strangers are let in exactly if the settings ask for no guard, and then everyone is, as nobody
in particular; nothing that happens later changes it. A fixed password is never the empty one, and
a word that means no mode leaves the choice to whether there is one. -/
theorem open_iff_configured (settings : Settings) {plan : AuthPlan}
    (planned : settings.plan = .ok plan) (hosts : Url.HostMapping) (now : Nat)
    (past : List Router.Exchange) (router : Router.Behavior) (moves : List Move) :
    let built := (Gateway.ofPlan hosts plan now).run router past
    let start : Service := ⟨built.value, now + built.elapsed, past ++ built.exchanges⟩
    let service := (start.play router moves).2
    let asked := fun headers => (service.act router (.authorize headers)).1.result
    (∀ headers, headers.AreBare →
        ((∃ identity, asked headers = .decided (.allowed identity)) ↔ settings.AskForNoGuard)) ∧
      (settings.AskForNoGuard → ∀ headers, asked headers = .decided (.allowed .anonymous)) ∧
      (¬settings.AskForNoGuard → ∀ headers, headers.AreBare → asked headers = .decided .denied) ∧
      service.gateway.mode = plan.mode ∧
      (∀ expected, service.gateway.backend = .fixed expected → expected.password ≠ "") ∧
      (Text.lower settings.authMode ∉ ["ndm", "local", "none", "off"] →
        service.gateway.mode = if settings.password = "" then .delegated else .fixed) := by
  intro built start service asked
  obtain ⟨chosen, password⟩ := Settings.plan_eq_ok planned
  obtain ⟨builtMode, builtFixed⟩ :=
    Gateway.built_of_yields (yields_run router past (Gateway.ofPlan hosts plan now))
  have evolves : built.value.Evolves service.gateway := Service.play_evolves router start moves
  have sameMode : service.gateway.mode = settings.modeChoice.1 :=
    evolves.mode_eq.trans (builtMode.trans chosen)
  have decided {headers : Http.Headers} {decision : Decision}
      (decides : service.gateway.authorize service.now headers =
        .done (decision, service.gateway)) : asked headers = .decided decision :=
    Service.act_authorize router decides
  have everyone (noGuard : settings.AskForNoGuard) (headers : Http.Headers) :
      asked headers = .decided (.allowed .anonymous) :=
    decided (Gateway.authorize_unguarded
      (sameMode.trans (Settings.modeChoice_eq_unguarded_iff.mpr noGuard)) _ headers)
  have nobody (guarded : ¬settings.AskForNoGuard) (headers : Http.Headers)
      (bare : headers.AreBare) : asked headers = .decided .denied := by
    apply decided
    apply Gateway.authorize_of_bare _ _ bare
    rw [sameMode]
    exact mt Settings.modeChoice_eq_unguarded_iff.mp guarded
  refine ⟨?_, everyone, nobody, sameMode.trans chosen.symm, ?_, ?_⟩
  · intro headers bare
    constructor
    · intro allowed
      obtain ⟨identity, allowed⟩ := allowed
      apply Classical.byContradiction
      intro guarded
      cases allowed.symm.trans (nobody guarded headers bare)
    · intro noGuard
      exact ⟨.anonymous, everyone noGuard headers⟩
  · intro expected backend
    have isFixed : service.gateway.mode = .fixed := by
      simp only [Gateway.mode, backend]
    have chosenFixed := sameMode.symm.trans isFixed
    rw [evolves.eq_of_mode_ne (by rw [builtMode, chosen, chosenFixed]; nofun),
      builtFixed (chosen.trans chosenFixed)] at backend
    cases backend
    rw [password]
    exact Settings.password_ne_of_fixed chosenFixed
  · intro unknown
    exact sameMode.trans (Settings.modeChoice_of_unknown unknown)

theorem open_iff_configured_padded :
    let settings : Settings := { authMode := " none", password := "pw" }
    ∃ plan, settings.plan = .ok plan ∧ plan.mode = .fixed ∧
      let built := (Gateway.ofPlan .tableless plan 0).run (Router.unreachable "") []
      let service : Service := ⟨built.value, 0 + built.elapsed, [] ++ built.exchanges⟩
      let last := (service.play (Router.unreachable "") [.act (.login "admin" "pw" []), .wake]).2
      (last.act (Router.unreachable "") (.authorize [])).1.result = .decided .denied := by
  refine ⟨_, rfl, rfl, ?_⟩
  have guarded : ¬Settings.AskForNoGuard { authMode := " none", password := "pw" } := by
    unfold Settings.AskForNoGuard
    decide
  obtain ⟨-, -, denied, -⟩ := open_iff_configured { authMode := " none", password := "pw" } rfl
    .tableless 0 [] (Router.unreachable "") [.act (.login "admin" "pw" []), .wake]
  apply denied guarded
  intro header impossible
  cases impossible

end RouterGate
