import RouterGate.Proofs.Gateway.Modes
import RouterGate.Proofs.Verdict.Judging
/-!
Asking whether a request is authorized. The answer is never at odds with what the gateway would
decide, and asking for it changes nothing: a run without such questions is the same run.
-/
namespace RouterGate

open Router.Dialogue

/-- A step in which a request is let in. -/
def Step.Allows (step : Step) : Prop :=
  ∃ identity, step.result = .decided (.allowed identity)

def Step.isCheck (step : Step) : Bool :=
  match step.action with
  | .check _ => true
  | _ => false

def Move.isCheck : Move → Bool
  | .act (.check _) => true
  | _ => false

theorem Decision.isAllowed_iff {decision : Decision} :
    decision.isAllowed = true ↔ ∃ identity, decision = .allowed identity := by
  cases decision <;> simp [isAllowed, identity?]

theorem Decision.isAllowed_ofVerdict (identity : Identity) (isValid : Bool) :
    (ofVerdict identity isValid).isAllowed = isValid := by
  cases isValid <;> rfl

theorem SessionStore.isAllowed_decide (store : SessionStore) (now : Nat) (headers : Http.Headers) :
    (store.decide now headers).isAllowed = (store.presented? now headers).isSome := by
  unfold SessionStore.decide
  cases store.presented? now headers <;> rfl

namespace Gateway

variable {gateway : Gateway} (now : Nat) (headers : Http.Headers)

/-- A gateway that keeps no verdicts decides by itself, as it tells when asked. -/
theorem authorize_of_no_verdicts (others : gateway.delegation? ≠ some .forward) :
    ∃ decision, gateway.authorize now headers = .done (decision, gateway) ∧
      decision.isAllowed = gateway.isAuthenticated now headers := by
  obtain ⟨backend, isDegraded⟩ := gateway
  cases backend with
  | unguarded => exact ⟨_, rfl, rfl⟩
  | fixed expected => exact ⟨_, rfl, Decision.isAllowed_ofVerdict _ _⟩
  | delegated endpoint trust =>
      cases trust with
      | sessions store => exact ⟨_, rfl, store.isAllowed_decide now headers⟩
      | verdicts cache => exact absurd rfl others

theorem verdicts_of_forward (forwards : gateway.delegation? = some .forward) :
    ∃ endpoint cache, gateway.backend = .delegated endpoint (.verdicts cache) := by
  unfold delegation? at forwards
  split at forwards
  next endpoint trust backend =>
    cases trust with
    | sessions store => cases forwards
    | verdicts cache => exact ⟨endpoint, cache, backend⟩
  next => cases forwards

variable {endpoint : Router.Endpoint} {cache : VerdictCache}
  (backend : gateway.backend = .delegated endpoint (.verdicts cache))

include backend

theorem isAuthenticated_verdicts_iff :
    gateway.isAuthenticated now headers = true ↔
      ∃ asked, Presented.ofHeaders? headers = some asked ∧
        cache.get? now asked.key = some true := by
  simp only [isAuthenticated, backend]
  cases Presented.ofHeaders? headers with
  | none => simp
  | some asked => simp

end Gateway

namespace Service

section Checks

variable (router : Router.Behavior) (service : Service)

theorem act_check (headers : Http.Headers) :
    service.act router (.check headers) =
      (⟨.check headers, .checked (service.gateway.check service.now headers), service.now,
        service.now, [], []⟩, service) := by
  simp [act, dialogue, Router.Outcome.elapsed, waitOf]

theorem isCheck_act (action : Action) :
    (service.act router action).1.isCheck = (Move.act action).isCheck := by
  cases action <;> rfl

/-- A run goes as it would without its checks. -/
theorem play_without_checks (moves : List Move) :
    service.play router (moves.filter fun move => !move.isCheck) =
      ((service.play router moves).1.filter fun step => !step.isCheck,
        (service.play router moves).2) := by
  induction moves generalizing service with
  | nil => rfl
  | cons move rest induction =>
      cases move with
      | wake => exact induction service.wake
      | act action =>
          have sameSort := isCheck_act router service action
          cases checks : (Move.act action).isCheck with
          | true =>
              cases action with
              | check headers =>
                  rw [play_act, act_check]
                  exact induction service
              | _ => cases checks
          | false =>
              rw [checks] at sameSort
              rw [List.filter_cons_of_pos (by rw [checks]; rfl), play_act, play_act, induction,
                List.filter_cons_of_pos (by rw [sameSort]; rfl)]

end Checks

section Agreement

variable (router : Router.Behavior) {service : Service} (headers : Http.Headers)

theorem allows_iff :
    (service.act router (.authorize headers)).1.Allows ↔
      ((service.gateway.authorize service.now headers).run router
        service.past).value.1.isAllowed = true := by
  obtain ⟨result, -⟩ := act_authorize_run router service headers
  rw [Step.Allows, result, Decision.isAllowed_iff]
  simp only [Result.decided.injEq]

theorem isAuthenticated_iff_allows (others : service.gateway.delegation? ≠ some .forward) :
    service.gateway.isAuthenticated service.now headers = true ↔
      (service.act router (.authorize headers)).1.Allows := by
  obtain ⟨decision, decides, agrees⟩ :=
    Gateway.authorize_of_no_verdicts service.now headers others
  rw [allows_iff, decides, run_done, agrees]

variable {endpoint : Router.Endpoint} {cache : VerdictCache}
  (backend : service.gateway.backend = .delegated endpoint (.verdicts cache))

include backend

theorem isAuthenticated_iff_allows_silently :
    service.gateway.isAuthenticated service.now headers = true ↔
      (service.act router (.authorize headers)).1.Allows ∧
        (service.act router (.authorize headers)).1.exchanges = [] := by
  obtain ⟨-, exchanges, -⟩ := act_authorize_run router service headers
  rw [Gateway.isAuthenticated_verdicts_iff _ _ backend, allows_iff, exchanges]
  cases presents : Presented.ofHeaders? headers with
  | none =>
      simp [Gateway.authorize_nothing backend presents, Decision.isAllowed, Decision.identity?]
  | some asked =>
      obtain ⟨value, judgedExchanges⟩ :=
        Gateway.run_authorize_verdicts backend presents service.now router service.past
      rw [value, judgedExchanges, Decision.isAllowed_ofVerdict]
      cases known : cache.get? service.now asked.key with
      | some isValid =>
          obtain ⟨judged, silent⟩ :=
            cache.run_judge_known endpoint service.now asked router service.past known
          simp [judged, silent, known]
      | none =>
          obtain ⟨judged, spoken⟩ :=
            cache.run_judge_unknown endpoint service.now asked router service.past known
          -- A yes that is new has been heard from the router, and so not in silence.
          simp only [Option.some.injEq, exists_eq_left', known, reduceCtorEq, false_iff, not_and]
          rw [judged, spoken]
          intro allowed silent
          have held := yields_run router service.past (asked.verify endpoint)
          rw [silent] at held
          cases verdict : ((asked.verify endpoint).run router service.past).value with
          | error fault =>
              rw [verdict] at allowed
              cases allowed
          | ok isValid =>
              rw [verdict] at held
              exact Presented.ne_nil_of_verify held rfl

/-- Whoever has just been let in is told so, as long as verdicts last at all. -/
theorem isAuthenticated_of_allows (lasts : 0 < cache.ttl)
    (allows : (service.act router (.authorize headers)).1.Allows) :
    let next := (service.act router (.authorize headers)).2
    next.gateway.isAuthenticated next.now headers = true := by
  obtain ⟨-, -, kept, reached⟩ := act_authorize_run router service headers
  intro next
  rw [allows_iff] at allows
  rw [kept, reached]
  cases presents : Presented.ofHeaders? headers with
  | none =>
      rw [Gateway.authorize_nothing backend presents] at allows
      cases allows
  | some asked =>
      obtain ⟨value, exchanges⟩ :=
        Gateway.run_authorize_verdicts backend presents service.now router service.past
      rw [value, Decision.isAllowed_ofVerdict] at allows
      rw [value, exchanges, Gateway.isAuthenticated_verdicts_iff _ _ rfl]
      refine ⟨asked, presents, ?_⟩
      cases known : cache.get? service.now asked.key with
      | some isValid =>
          obtain ⟨judged, silent⟩ :=
            cache.run_judge_known endpoint service.now asked router service.past known
          rw [judged] at allows
          rw [judged, silent, duration_nil, Nat.add_zero, known]
          exact congrArg some allows
      | none =>
          obtain ⟨judged, spoken⟩ :=
            cache.run_judge_unknown endpoint service.now asked router service.past known
          rw [judged] at allows
          rw [judged, spoken]
          cases verdict : ((asked.verify endpoint).run router service.past).value with
          | error fault =>
              rw [verdict] at allows
              cases allows
          | ok isValid =>
              rw [verdict] at allows
              rw [VerdictCache.keeping, VerdictCache.get?_put_self, if_neg (by omega)]
              exact congrArg some allows

end Agreement

end Service

/-- To ask whether a request is authorized is to ask nobody else, and to change nothing: runs go as
without such questions. The answer is what the gateway would decide at that moment, except that a
gateway that keeps verdicts says yes only where it knows one, and so would ask no router either;
it knows one as soon as it has let the request in. -/
theorem check_agrees (router : Router.Behavior) (service : Service) :
    (∀ headers,
      let checked := service.act router (.check headers)
      let asked := service.act router (.authorize headers)
      checked.1.exchanges = [] ∧ checked.2 = service ∧
        ∃ told, checked.1.result = .checked ⟨told, service.gateway.mode⟩ ∧
          (service.gateway.delegation? ≠ some .forward → (told = true ↔ asked.1.Allows)) ∧
          (service.gateway.delegation? = some .forward →
            (told = true ↔ asked.1.Allows ∧ asked.1.exchanges = [])) ∧
          ∀ endpoint cache, service.gateway.backend = .delegated endpoint (.verdicts cache) →
            0 < cache.ttl → asked.1.Allows →
              (asked.2.act router (.check headers)).1.result = .checked ⟨true, .delegated⟩) ∧
      ∀ moves,
        service.play router (moves.filter fun move => !move.isCheck) =
          ((service.play router moves).1.filter fun step => !step.isCheck,
            (service.play router moves).2) := by
  refine ⟨?_, Service.play_without_checks router service⟩
  intro headers checked asked
  have told : checked = _ := Service.act_check router service headers
  refine ⟨by rw [told], by rw [told],
    service.gateway.isAuthenticated service.now headers, by rw [told]; rfl, ?_, ?_, ?_⟩
  · exact Service.isAuthenticated_iff_allows router headers
  · intro forwards
    obtain ⟨endpoint, cache, backend⟩ := Gateway.verdicts_of_forward forwards
    exact Service.isAuthenticated_iff_allows_silently router headers backend
  · intro endpoint cache backend lasts allows
    have again := Service.isAuthenticated_of_allows router headers backend lasts allows
    have sameMode := (Service.act_evolves router service (.authorize headers)).mode_eq
    have delegated : service.gateway.mode = .delegated := by
      simp only [Gateway.mode, backend]
    rw [Service.act_check]
    show Result.checked ⟨_, _⟩ = _
    rw [again, sameMode, delegated]

end RouterGate
