import RouterGate.Gateway.Clock
import RouterGate.Proofs.Gateway.Modes
import RouterGate.Proofs.Router.Discovery
import RouterGate.Proofs.Session.Steps
import RouterGate.Proofs.Verdict.Steps
/-!
Programs that break off because a moment lies beyond the clock. Only three times are ever added to
the present: how long a session lasts, how long a verdict is known, and the period of the reaper.
-/
namespace RouterGate

/-- The end of the first seconds that fit into an unsigned word of 32 bits. -/
def Clock.horizon : Nat :=
  UInt32.size * 1000

/-- Added to any moment before the horizon, a time of so many seconds is still held. -/
def Clock.IsWithinReach (seconds : Nat) : Prop :=
  seconds + UInt32.size ≤ UInt64.size / 2

theorem Clock.isWithinReach_iff_le {seconds : Nat} :
    IsWithinReach seconds ↔ seconds ≤ 9223372032559808512 := by
  have whole : UInt64.size / 2 = 9223372032559808512 + UInt32.size := rfl
  rw [IsWithinReach, whole, Nat.add_le_add_iff_right]

theorem Clock.isWithinReach_iff {seconds : Nat} :
    IsWithinReach seconds ↔
      ∀ moment < horizon, holds (moment + seconds * 1000) = true := by
  have ends : horizon = 4294967296000 := rfl
  simp only [isWithinReach_iff_le, holds_iff, ends]
  constructor
  · intro reach moment before
    omega
  · intro held
    have last := held 4294967295999 (by decide)
    omega

theorem Clock.isWithinReach_max_one {seconds : Nat} :
    IsWithinReach (max seconds 1) ↔ IsWithinReach seconds := by
  rw [isWithinReach_iff_le, isWithinReach_iff_le]
  omega

/-- A time that the clock cannot hold can be added to no moment at all. -/
theorem Clock.holds_add_eq_false {seconds : Nat} (beyond : 9223372036854775808 ≤ seconds)
    (moment : Nat) : holds (moment + seconds * 1000) = false := by
  rw [← Bool.not_eq_true, holds_iff]
  omega

/-- What is added up in a step: when a session expires that it gives out, or when a verdict expires
that it hears. -/
inductive Step.AddsUp (plan : AuthPlan) (gateway : Gateway) (step : Step) : Nat → Prop
  | session {endpoint : Router.Endpoint} {store : SessionStore} {user token : String}
      (backend : gateway.backend = .delegated endpoint (.sessions store))
      (issues : step.Issues plan.sessionTtl user token) :
      AddsUp plan gateway step (step.ended + plan.sessionTtl)
  | verdict {endpoint : Router.Endpoint} {cache : VerdictCache} {asked : Presented}
      {isValid : Bool} (backend : gateway.backend = .delegated endpoint (.verdicts cache))
      (hears : step.Hears endpoint asked isValid) :
      AddsUp plan gateway step (step.ended + plan.cacheTtl)

/-- A gateway that keeps what it remembers for as long as a plan says. -/
inductive Gateway.Follows (plan : AuthPlan) (gateway : Gateway) : Prop
  | sessions {endpoint : Router.Endpoint} {store : SessionStore}
      (backend : gateway.backend = .delegated endpoint (.sessions store))
      (lasts : store.ttl = plan.sessionTtl) : Follows plan gateway
  | verdicts {endpoint : Router.Endpoint} {cache : VerdictCache}
      (backend : gateway.backend = .delegated endpoint (.verdicts cache))
      (lasts : cache.ttl = plan.cacheTtl) : Follows plan gateway
  | alone (other : gateway.mode ≠ .delegated) : Follows plan gateway

namespace Service

/-- A service as a plan starts it. -/
def ofPlan (router : Router.Behavior) (hosts : Url.HostMapping) (plan : AuthPlan) (now : Nat)
    (past : List Router.Exchange) : Service :=
  let built := (Gateway.ofPlan hosts plan now).run router past
  ⟨built.value, now + built.elapsed, past ++ built.exchanges⟩

/-- The start of a service, unless the program breaks off in it. -/
def launch? (router : Router.Behavior) (hosts : Url.HostMapping) (plan : AuthPlan) (now : Nat)
    (past : List Router.Exchange) : Option Service :=
  let start := ofPlan router hosts plan now past
  if start.gateway.reaperStarts then some start else none

/-- An action, unless the program breaks off in it. -/
def act? (router : Router.Behavior) (service : Service) (action : Action) :
    Option (Step × Service) :=
  let acted := service.act router action
  if acted.2.gateway.fitsClock then some acted else none

def play? (router : Router.Behavior) (service : Service) :
    List Move → Option (List Step × Service)
  | [] => some ([], service)
  | .act action :: rest =>
      (service.act? router action).bind fun acted =>
        (acted.2.play? router rest).map fun played => (acted.1 :: played.1, played.2)
  | .wake :: rest => service.wake.play? router rest

end Service

section Expiry

variable {store kept : SessionStore} {cache next : VerdictCache} {now : Nat} {step : Step}

theorem SessionStore.fitsClock_iff :
    store.fitsClock = true ↔
      ∀ session ∈ store.sessions, Clock.holds session.expiresAt = true :=
  List.all_eq_true

theorem SessionStore.fitsClock_of_sublist (fits : store.fitsClock = true)
    (fewer : kept.sessions.Sublist store.sessions) : kept.fitsClock = true :=
  fitsClock_iff.mpr fun session stored =>
    fitsClock_iff.mp fits session (fewer.subset stored)

/-- A new session adds one moment to those that are stored. -/
theorem SessionStore.fitsClock_add (fits : store.fitsClock = true) (owner token : String) :
    (store.add now owner token).fitsClock = Clock.holds (now + store.ttl) := by
  rw [fitsClock] at fits
  rw [fitsClock, add_sessions, List.all_cons, fits, Bool.and_true]

theorem VerdictCache.fitsClock_put (fits : cache.fitsClock = true) (key : String)
    (isValid : Bool) : (cache.put now key isValid).fitsClock = Clock.holds (now + cache.ttl) := by
  have others : ((cache.live now).filter (·.key != key)).all
      (fun verdict => Clock.holds verdict.expiresAt) = true := by
    rw [List.all_eq_true]
    intro verdict member
    have kept := (List.filter_sublist.trans List.filter_sublist).subset member
    exact List.all_eq_true.mp fits verdict kept
  rw [fitsClock, put, List.all_cons, others, Bool.and_true]

theorem SessionEffect.ttl_eq (effect : SessionEffect store step kept) : kept.ttl = store.ttl := by
  cases effect with
  | kept trims noIssue noEnd => exact trims.ttl
  | issued issues only noEnd confirmed trims fresh => exact trims.ttl
  | ended ends only noIssue => rfl

/-- The sessions come to lie beyond the clock only by a session that is given out. -/
theorem SessionEffect.fitsClock_eq_false_iff (effect : SessionEffect store step kept)
    (fits : store.fitsClock = true) :
    kept.fitsClock = false ↔
      (∃ user token, step.Issues store.ttl user token) ∧
        Clock.holds (step.ended + store.ttl) = false := by
  have unchanged {other : SessionStore} (fewer : other.sessions.Sublist store.sessions)
      (noIssue : ∀ user token, ¬step.Issues store.ttl user token) :
      other.fitsClock = false ↔
        (∃ user token, step.Issues store.ttl user token) ∧
          Clock.holds (step.ended + store.ttl) = false := by
    simp [SessionStore.fitsClock_of_sublist fits fewer, noIssue]
  cases effect with
  | kept trims noIssue noEnd => exact unchanged trims.sublist noIssue
  | issued issues only noEnd confirmed trims fresh =>
      have trimmed := SessionStore.fitsClock_of_sublist fits trims.sublist
      rw [SessionStore.fitsClock_add trimmed, trims.ttl]
      exact (and_iff_right ⟨_, _, issues⟩).symm
  | ended ends only noIssue => exact unchanged List.filter_sublist noIssue

theorem VerdictEffect.ttl_eq {endpoint : Router.Endpoint}
    (effect : VerdictEffect endpoint cache step next) : next.ttl = cache.ttl := by
  cases effect with
  | kept unheard => rfl
  | heard hears => rfl

theorem VerdictEffect.fitsClock_eq_false_iff {endpoint : Router.Endpoint}
    (effect : VerdictEffect endpoint cache step next) (fits : cache.fitsClock = true) :
    next.fitsClock = false ↔
      (∃ asked isValid, step.Hears endpoint asked isValid) ∧
        Clock.holds (step.ended + cache.ttl) = false := by
  cases effect with
  | kept unheard => simp [fits, unheard]
  | heard hears =>
      rw [VerdictCache.fitsClock_put fits]
      exact (and_iff_right ⟨_, _, hears⟩).symm

end Expiry

namespace Gateway

variable {plan : AuthPlan} {gateway : Gateway} {endpoint : Router.Endpoint}

theorem fitsClock_sessions {store : SessionStore}
    (backend : gateway.backend = .delegated endpoint (.sessions store)) :
    gateway.fitsClock = store.fitsClock := by
  simp only [fitsClock, backend]

theorem fitsClock_verdicts {cache : VerdictCache}
    (backend : gateway.backend = .delegated endpoint (.verdicts cache)) :
    gateway.fitsClock = cache.fitsClock := by
  simp only [fitsClock, backend]

theorem mode_eq_delegated {trust : Trust} (backend : gateway.backend = .delegated endpoint trust) :
    gateway.mode = .delegated := by
  simp only [mode, backend]

theorem fitsClock_alone (other : gateway.mode ≠ .delegated) : gateway.fitsClock = true := by
  unfold fitsClock
  split
  next backend => exact absurd (mode_eq_delegated backend) other
  next backend => exact absurd (mode_eq_delegated backend) other
  next => rfl

theorem reaperStarts_alone (other : gateway.mode ≠ .delegated) : gateway.reaperStarts = true := by
  unfold reaperStarts
  split
  next backend => exact absurd (mode_eq_delegated backend) other
  next => rfl

theorem reaperStarts_sessions {ttl reapEvery born : Nat} (periodic : 0 < reapEvery)
    (backend : gateway.backend = .delegated endpoint (.sessions (.start ttl reapEvery born))) :
    gateway.reaperStarts = Clock.holds (born + reapEvery) := by
  have period : (reapEvery != 0) = true := bne_iff_ne.mpr (Nat.ne_of_gt periodic)
  simp only [reaperStarts, backend, SessionStore.start, period, Bool.true_and]

theorem reaperStarts_verdicts {cache : VerdictCache}
    (backend : gateway.backend = .delegated endpoint (.verdicts cache)) :
    gateway.reaperStarts = true := by
  simp only [reaperStarts, backend]

theorem reaped_sessions {store : SessionStore}
    (backend : gateway.backend = .delegated endpoint (.sessions store)) (now : Nat) :
    (gateway.reaped now).backend = .delegated endpoint (.sessions (store.reap now)) := by
  simp only [reaped, backend]

theorem Follows.reaped (follows : gateway.Follows plan) (now : Nat) :
    (gateway.reaped now).Follows plan := by
  cases follows with
  | sessions backend lasts => exact .sessions (reaped_sessions backend now) lasts
  | verdicts backend lasts =>
      rw [reaped_verdicts backend]
      exact .verdicts backend lasts
  | alone other =>
      apply Follows.alone
      rw [(gateway.evolves_reaped now).mode_eq]
      exact other

theorem Follows.fitsClock_reaped (follows : gateway.Follows plan)
    (fits : gateway.fitsClock = true) (now : Nat) : (gateway.reaped now).fitsClock = true := by
  cases follows with
  | sessions backend lasts =>
      rw [fitsClock_sessions backend] at fits
      rw [fitsClock_sessions (reaped_sessions backend now)]
      exact SessionStore.fitsClock_of_sublist fits List.filter_sublist
  | verdicts backend lasts =>
      rw [reaped_verdicts backend]
      exact fits
  | alone other =>
      apply fitsClock_alone
      rw [(gateway.evolves_reaped now).mode_eq]
      exact other

end Gateway

/-- Nothing has broken off so far. -/
structure Service.IsUnbroken (plan : AuthPlan) (service : Service) : Prop where
  follows : service.gateway.Follows plan
  fits : service.gateway.fitsClock = true

namespace Step

variable {plan : AuthPlan} {gateway : Gateway} {endpoint : Router.Endpoint} {step : Step}

theorem addsUp_sessions_iff {store : SessionStore} {moment : Nat}
    (backend : gateway.backend = .delegated endpoint (.sessions store)) :
    step.AddsUp plan gateway moment ↔
      (∃ user token, step.Issues plan.sessionTtl user token) ∧
        moment = step.ended + plan.sessionTtl := by
  constructor
  · intro addsUp
    cases addsUp with
    | session backend' issues => exact ⟨⟨_, _, issues⟩, rfl⟩
    | verdict backend' hears => cases backend.symm.trans backend'
  · intro issued
    obtain ⟨⟨user, token, issues⟩, rfl⟩ := issued
    exact .session backend issues

theorem addsUp_verdicts_iff {cache : VerdictCache} {moment : Nat}
    (backend : gateway.backend = .delegated endpoint (.verdicts cache)) :
    step.AddsUp plan gateway moment ↔
      (∃ asked isValid, step.Hears endpoint asked isValid) ∧
        moment = step.ended + plan.cacheTtl := by
  constructor
  · intro addsUp
    cases addsUp with
    | session backend' issues => cases backend.symm.trans backend'
    | verdict backend' hears =>
        cases backend.symm.trans backend'
        exact ⟨⟨_, _, hears⟩, rfl⟩
  · intro heard
    obtain ⟨⟨asked, isValid, hears⟩, rfl⟩ := heard
    exact .verdict backend hears

theorem not_addsUp_alone (other : gateway.mode ≠ .delegated) (moment : Nat) :
    ¬step.AddsUp plan gateway moment := by
  intro addsUp
  cases addsUp with
  | session backend issues => exact other (Gateway.mode_eq_delegated backend)
  | verdict backend hears => exact other (Gateway.mode_eq_delegated backend)

/-- Every sum is one of the present and a time of the plan. -/
theorem AddsUp.holds {moment : Nat} (addsUp : step.AddsUp plan gateway moment)
    (session : Clock.holds (step.ended + plan.sessionTtl) = true)
    (verdict : Clock.holds (step.ended + plan.cacheTtl) = true) :
    Clock.holds moment = true := by
  cases addsUp with
  | session backend issues => exact session
  | verdict backend hears => exact verdict

end Step

namespace Service

variable {plan : AuthPlan} {service : Service}

theorem act?_eq_some_iff {router : Router.Behavior} {action : Action}
    {acted : Step × Service} :
    service.act? router action = some acted ↔
      (service.act router action).2.gateway.fitsClock = true ∧
        service.act router action = acted := by
  rw [act?, Option.ite_none_right_eq_some, Option.some.injEq]

theorem act?_eq_none_iff {router : Router.Behavior} {action : Action} :
    service.act? router action = none ↔
      (service.act router action).2.gateway.fitsClock = false := by
  simp [act?]

theorem eq_of_launch? {router : Router.Behavior} {hosts : Url.HostMapping} {now : Nat}
    {past : List Router.Exchange} {start : Service}
    (launched : launch? router hosts plan now past = some start) :
    start = ofPlan router hosts plan now past := by
  rw [launch?, Option.ite_none_right_eq_some, Option.some.injEq] at launched
  exact launched.2.symm

namespace IsUnbroken

theorem follows_act (unbroken : service.IsUnbroken plan) (router : Router.Behavior)
    (action : Action) : (service.act router action).2.gateway.Follows plan := by
  cases unbroken.follows with
  | sessions backend lasts =>
      obtain ⟨next, nextBackend, effect⟩ := act_sessionEffect router action backend
      exact .sessions nextBackend (effect.ttl_eq.trans lasts)
  | verdicts backend lasts =>
      obtain ⟨next, nextBackend, effect⟩ := act_verdictEffect router action backend
      exact .verdicts nextBackend (effect.ttl_eq.trans lasts)
  | alone other =>
      apply Gateway.Follows.alone
      rw [(act_evolves router service action).mode_eq]
      exact other

/-- An action breaks off exactly if what is added up in it lies beyond the clock. -/
theorem act?_eq_none_iff (unbroken : service.IsUnbroken plan) (router : Router.Behavior)
    (action : Action) :
    service.act? router action = none ↔
      ∃ moment, (service.act router action).1.AddsUp plan service.gateway moment ∧
        Clock.holds moment = false := by
  have fits := unbroken.fits
  rw [Service.act?_eq_none_iff]
  cases unbroken.follows with
  | sessions backend lasts =>
      obtain ⟨next, nextBackend, effect⟩ := act_sessionEffect router action backend
      rw [Gateway.fitsClock_sessions backend] at fits
      simp only [Gateway.fitsClock_sessions nextBackend, effect.fitsClock_eq_false_iff fits,
        lasts, Step.addsUp_sessions_iff backend, and_assoc, exists_and_left, exists_eq_left]
  | verdicts backend lasts =>
      obtain ⟨next, nextBackend, effect⟩ := act_verdictEffect router action backend
      rw [Gateway.fitsClock_verdicts backend] at fits
      simp only [Gateway.fitsClock_verdicts nextBackend, effect.fitsClock_eq_false_iff fits,
        lasts, Step.addsUp_verdicts_iff backend, and_assoc, exists_and_left, exists_eq_left]
  | alone other =>
      have still : (service.act router action).2.gateway.fitsClock = true := by
        apply Gateway.fitsClock_alone
        rw [(act_evolves router service action).mode_eq]
        exact other
      simp [still, Step.not_addsUp_alone other]

theorem act (unbroken : service.IsUnbroken plan) {router : Router.Behavior} {action : Action}
    {step : Step} {next : Service} (acted : service.act? router action = some (step, next)) :
    next.IsUnbroken plan := by
  obtain ⟨fits, same⟩ := act?_eq_some_iff.mp acted
  have follows := unbroken.follows_act router action
  rw [same] at fits follows
  exact ⟨follows, fits⟩

theorem wake (unbroken : service.IsUnbroken plan) : service.wake.IsUnbroken plan :=
  ⟨unbroken.follows.reaped _, unbroken.follows.fitsClock_reaped unbroken.fits _⟩

/-- What has not broken off is a run like any other, and nothing stored lies beyond the clock. -/
theorem play (unbroken : service.IsUnbroken plan) {router : Router.Behavior}
    {moves : List Move} {played : List Step × Service}
    (reached : service.play? router moves = some played) :
    played = service.play router moves ∧ played.2.IsUnbroken plan := by
  induction moves generalizing service played with
  | nil =>
      cases reached
      exact ⟨rfl, unbroken⟩
  | cons move rest induction =>
      cases move with
      | act action =>
          obtain ⟨acted, kept, later⟩ := Option.bind_eq_some_iff.mp reached
          obtain ⟨further, continued, same⟩ := Option.map_eq_some_iff.mp later
          obtain ⟨plain, still⟩ := induction (unbroken.act kept) continued
          subst same plain
          rw [play_act, (act?_eq_some_iff.mp kept).2]
          exact ⟨rfl, still⟩
      | wake => exact induction unbroken.wake reached

/-- A run does not break off if the times of the plan can be added to all its moments. -/
theorem play?_eq_some (unbroken : service.IsUnbroken plan) (router : Router.Behavior)
    (moves : List Move)
    (held : ∀ moment ≤ (service.play router moves).2.now,
      Clock.holds (moment + plan.sessionTtl) = true ∧
        Clock.holds (moment + plan.cacheTtl) = true) :
    service.play? router moves = some (service.play router moves) := by
  induction moves generalizing service with
  | nil => rfl
  | cons move rest induction =>
      cases move with
      | act action =>
          rw [play_act] at held ⊢
          have ended := now_le_play router (service.act router action).2 rest
          obtain ⟨session, verdict⟩ := held (service.act router action).1.ended ended
          cases acted : service.act? router action with
          | none =>
              obtain ⟨moment, addsUp, beyond⟩ := (unbroken.act?_eq_none_iff router action).mp acted
              cases (addsUp.holds session verdict).symm.trans beyond
          | some pair =>
              have plain := (act?_eq_some_iff.mp acted).2
              have later := induction (unbroken.act acted) (plain ▸ held)
              rw [play?, acted, Option.bind_some, later, Option.map_some, plain]
      | wake => exact induction unbroken.wake held

end IsUnbroken

end Service

section Starting

variable (router : Router.Behavior) (hosts : Url.HostMapping) {plan : AuthPlan} (now : Nat)
  (past : List Router.Exchange)

/-- What a delegated service remembers when it starts; a reaper is born at that moment. -/
theorem Service.ofPlan_delegated (delegated : plan.mode = .delegated) :
    let start := ofPlan router hosts plan now past
    ∃ endpoint, start.gateway.backend = .delegated endpoint
      (.start plan.delegation plan.sessionTtl plan.cacheTtl plan.reapInterval start.now) := by
  intro start
  obtain ⟨value, exchanges⟩ := Gateway.run_ofPlan hosts delegated now router past
  have ready : start.now = now + ((Router.Management.ofAddress plan.rciUrl
      ⟨hosts, plan.routerTimeout⟩).discover.run router past).elapsed := by
    simp only [start, ofPlan, Router.Outcome.elapsed, exchanges]
  rw [ready]
  exact ⟨_, congrArg Gateway.backend value⟩

theorem Service.ofPlan_mode : (ofPlan router hosts plan now past).gateway.mode = plan.mode :=
  (Gateway.built_of_yields (Router.Dialogue.yields_run router past _)).1

theorem Service.isUnbroken_ofPlan : (ofPlan router hosts plan now past).IsUnbroken plan := by
  by_cases delegated : plan.mode = .delegated
  · obtain ⟨endpoint, backend⟩ := ofPlan_delegated router hosts now past delegated
    cases chosen : plan.delegation with
    | session =>
        rw [chosen] at backend
        exact ⟨.sessions backend rfl, Gateway.fitsClock_sessions backend⟩
    | forward =>
        rw [chosen] at backend
        exact ⟨.verdicts backend rfl, Gateway.fitsClock_verdicts backend⟩
  · have other : (ofPlan router hosts plan now past).gateway.mode ≠ .delegated := by
      rw [ofPlan_mode]
      exact delegated
    exact ⟨.alone other, Gateway.fitsClock_alone other⟩

/-- A start breaks off exactly if there is a reaper whose first wake-up lies beyond the clock. -/
theorem Service.launch?_eq_none_iff (periodic : 0 < plan.reapInterval) :
    launch? router hosts plan now past = none ↔
      plan.mode = .delegated ∧ plan.delegation = .session ∧
        Clock.holds ((ofPlan router hosts plan now past).now + plan.reapInterval) = false := by
  have starts_iff : launch? router hosts plan now past = none ↔
      (ofPlan router hosts plan now past).gateway.reaperStarts = false := by
    simp [launch?]
  rw [starts_iff]
  by_cases delegated : plan.mode = .delegated
  · obtain ⟨endpoint, backend⟩ := ofPlan_delegated router hosts now past delegated
    cases chosen : plan.delegation with
    | session =>
        rw [chosen] at backend
        rw [Gateway.reaperStarts_sessions periodic backend]
        exact ⟨fun beyond => ⟨delegated, rfl, beyond⟩, fun broken => broken.2.2⟩
    | forward =>
        rw [chosen] at backend
        rw [Gateway.reaperStarts_verdicts backend]
        exact ⟨nofun, fun broken => nomatch broken.2.1⟩
  · have other : (ofPlan router hosts plan now past).gateway.mode ≠ .delegated := by
      rw [ofPlan_mode]
      exact delegated
    rw [Gateway.reaperStarts_alone other]
    exact ⟨nofun, fun broken => absurd broken.1 delegated⟩

end Starting

namespace Settings

/-- The times of the settings can be added to every moment before the horizon. -/
structure AreWithinReach (settings : Settings) : Prop where
  session : Clock.IsWithinReach settings.sessionTtlSecs
  cache : Clock.IsWithinReach settings.cacheTtlSecs
  reap : Clock.IsWithinReach settings.reapIntervalSecs

theorem plan_times {settings : Settings} {plan : AuthPlan} (planned : settings.plan = .ok plan) :
    plan.sessionTtl = settings.sessionTtlSecs * 1000 ∧
      plan.cacheTtl = settings.cacheTtlSecs * 1000 ∧
      plan.reapInterval = max settings.reapIntervalSecs 1 * 1000 := by
  unfold Settings.plan at planned
  cases chosen : settings.delegationChoice with
  | error fault =>
      rw [chosen] at planned
      cases planned
  | ok delegation =>
      rw [chosen] at planned
      cases planned
      exact ⟨rfl, rfl, rfl⟩

theorem areWithinReach_iff {settings : Settings} {plan : AuthPlan}
    (planned : settings.plan = .ok plan) :
    settings.AreWithinReach ↔ ∀ moment < Clock.horizon,
      Clock.holds (moment + plan.sessionTtl) = true ∧
        Clock.holds (moment + plan.cacheTtl) = true ∧
        Clock.holds (moment + plan.reapInterval) = true := by
  obtain ⟨session, cache, reap⟩ := plan_times planned
  rw [session, cache, reap]
  constructor
  · intro reach moment before
    exact ⟨Clock.isWithinReach_iff.mp reach.session moment before,
      Clock.isWithinReach_iff.mp reach.cache moment before,
      Clock.isWithinReach_iff.mp (Clock.isWithinReach_max_one.mpr reach.reap) moment before⟩
  · intro held
    refine ⟨Clock.isWithinReach_iff.mpr ?_, Clock.isWithinReach_iff.mpr ?_,
      Clock.isWithinReach_max_one.mp (Clock.isWithinReach_iff.mpr ?_)⟩
    · exact fun moment before => (held moment before).1
    · exact fun moment before => (held moment before).2.1
    · exact fun moment before => (held moment before).2.2

end Settings

/-- With settings within reach no run breaks off before the horizon. Without that, a start breaks
off exactly if its reaper would wake beyond the clock, and an action exactly if what it gives out
or hears would expire there. -/
theorem unbroken_within_reach (settings : Settings) {plan : AuthPlan}
    (planned : settings.plan = .ok plan) (router : Router.Behavior) (hosts : Url.HostMapping)
    (now : Nat) (past : List Router.Exchange) :
    let start := Service.ofPlan router hosts plan now past
    0 < plan.reapInterval ∧
      (settings.AreWithinReach ↔ ∀ moment < Clock.horizon,
        Clock.holds (moment + plan.sessionTtl) = true ∧
          Clock.holds (moment + plan.cacheTtl) = true ∧
          Clock.holds (moment + plan.reapInterval) = true) ∧
      (Service.launch? router hosts plan now past = none ↔
        plan.mode = .delegated ∧ plan.delegation = .session ∧
          Clock.holds (start.now + plan.reapInterval) = false) ∧
      ∀ moves,
        (∀ played, start.play? router moves = some played →
          played = start.play router moves ∧
            ∀ action, played.2.act? router action = none ↔
              ∃ moment, (played.2.act router action).1.AddsUp plan played.2.gateway moment ∧
                Clock.holds moment = false) ∧
        (settings.AreWithinReach → (start.play router moves).2.now < Clock.horizon →
          Service.launch? router hosts plan now past = some start ∧
            start.play? router moves = some (start.play router moves)) := by
  intro start
  have periodic : 0 < plan.reapInterval := by
    rw [(Settings.plan_times planned).2.2]
    omega
  have reach_iff := Settings.areWithinReach_iff planned
  have broken_iff := Service.launch?_eq_none_iff router hosts now past periodic
  have unbroken : start.IsUnbroken plan := Service.isUnbroken_ofPlan router hosts now past
  refine ⟨periodic, reach_iff, broken_iff, ?_⟩
  intro moves
  constructor
  · intro played reached
    obtain ⟨same, still⟩ := unbroken.play reached
    exact ⟨same, still.act?_eq_none_iff router⟩
  · intro reach before
    have held := reach_iff.mp reach
    have started : start.now < Clock.horizon :=
      Nat.lt_of_le_of_lt (Service.now_le_play router start moves) before
    constructor
    · cases launched : Service.launch? router hosts plan now past with
      | none =>
          obtain ⟨-, -, beyond⟩ := broken_iff.mp launched
          cases (held start.now started).2.2.symm.trans beyond
      | some service => exact congrArg some (Service.eq_of_launch? launched)
    · apply unbroken.play?_eq_some
      intro moment earlier
      obtain ⟨session, verdict, -⟩ := held moment (Nat.lt_of_le_of_lt earlier before)
      exact ⟨session, verdict⟩

/-- A router that tells its address and trusts everyone. -/
def Router.obliging : Router.Behavior := fun _ _ =>
  ⟨.answered ⟨200, [], .whole (Bytes.ofString "\x7b\"address\":\"192.168.1.1\"\x7d")⟩, 5⟩

theorem unbroken_within_reach_defaults :
    let moves : List Move :=
      [.act (.login "alice" "secret" [.token "t"]), .wake, .act (.wait 600000)]
    ∃ plan, Settings.plan {} = .ok plan ∧
      let start := Service.ofPlan Router.obliging .tableless plan 0 []
      Service.launch? Router.obliging .tableless plan 0 [] = some start ∧
        ∃ played, start.play? Router.obliging moves = some played ∧
          played.1.map (·.ended) = [10, 600010] := by
  intro moves
  refine ⟨_, rfl, ?_⟩
  intro start
  have reach : Settings.AreWithinReach {} := by
    constructor <;> exact Nat.le_of_ble_eq_true rfl
  obtain ⟨-, -, -, runs⟩ := unbroken_within_reach {} rfl Router.obliging .tableless 0 []
  obtain ⟨launched, reached⟩ := (runs moves).2 reach (by decide +kernel)
  exact ⟨launched, _, reached, by decide +kernel⟩

/-- The largest counts that settings can have are accepted. With them a login, a verdict or the
start of the reaper breaks the program off. -/
theorem moments_beyond_clock :
    (Settings.load (some "SESSION_TTL_SECS=18446744073709551615\n") [] =
        .ok { sessionTtlSecs := 18446744073709551615 } ∧
      ∃ plan, Settings.plan { sessionTtlSecs := 18446744073709551615 } = .ok plan ∧
        ∃ start, Service.launch? Router.obliging .tableless plan 0 [] = some start ∧
          start.act? Router.obliging (.login "alice" "secret" [.token "t"]) = none) ∧
      (Settings.load (some "DELEGATION=forward\nCACHE_TTL_SECS=18446744073709551615\n") [] =
          .ok { delegation := "forward", cacheTtlSecs := 18446744073709551615 } ∧
        ∃ plan, Settings.plan
            { delegation := "forward", cacheTtlSecs := 18446744073709551615 } = .ok plan ∧
          ∃ start, Service.launch? Router.obliging .tableless plan 0 [] = some start ∧
            start.act? Router.obliging (.authorize [.ofText "cookie" "sid=abc"]) = none) ∧
      Settings.load (some "REAP_INTERVAL_SECS=18446744073709551615\n") [] =
          .ok { reapIntervalSecs := 18446744073709551615 } ∧
        ∃ plan, Settings.plan { reapIntervalSecs := 18446744073709551615 } = .ok plan ∧
          Service.launch? Router.obliging .tableless plan 0 [] = none := by
  refine ⟨⟨rfl, ?_⟩, ⟨rfl, ?_⟩, rfl, ?_⟩
  · exact ⟨_, rfl, _, by rfl, by rfl⟩
  · exact ⟨_, rfl, _, by rfl, by rfl⟩
  · refine ⟨_, by rfl, ?_⟩
    apply (Service.launch?_eq_none_iff Router.obliging .tableless 0 [] (by decide)).mpr
    exact ⟨rfl, rfl, @Clock.holds_add_eq_false 18446744073709551615 (by decide) _⟩

end RouterGate
