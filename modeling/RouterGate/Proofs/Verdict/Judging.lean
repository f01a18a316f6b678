import RouterGate.Proofs.Verdict.Steps
/-!
When the router is asked for a verdict. One that is known is given without a word to the router;
otherwise the router is asked once, and what it says is kept unless it is a fault.
-/
namespace RouterGate

open Router.Dialogue

namespace VerdictCache

/-- A verdict with the cache that keeps it. A fault is no verdict: it counts as a no and is not
kept. -/
def keeping (cache : VerdictCache) (moment : Nat) (key : String) :
    Except Fault Bool → Bool × VerdictCache
  | .ok isValid => (isValid, cache.put moment key isValid)
  | .error _ => (false, cache)

section Judge

variable (cache : VerdictCache) (endpoint : Router.Endpoint) (now : Nat) (asked : Presented)
  (router : Router.Behavior) (past : List Router.Exchange)

theorem run_record (key : String) (isValid : Bool) :
    ((cache.record now key isValid).run router past).value = cache.put now key isValid ∧
      ((cache.record now key isValid).run router past).exchanges = [] := by
  unfold record
  split <;> exact ⟨rfl, rfl⟩

theorem run_judge_known {isValid : Bool} (known : cache.get? now asked.key = some isValid) :
    let judged := (cache.judge endpoint now asked).run router past
    judged.value = (isValid, cache) ∧ judged.exchanges = [] := by
  simp only [judge, known]
  exact ⟨rfl, rfl⟩

theorem run_judge_unknown (unknown : cache.get? now asked.key = none) :
    let verified := (asked.verify endpoint).run router past
    let judged := (cache.judge endpoint now asked).run router past
    judged.value = cache.keeping (now + duration verified.exchanges) asked.key verified.value ∧
      judged.exchanges = verified.exchanges := by
  simp only [judge, unknown, run_seq, run_timed]
  generalize (asked.verify endpoint).run router past = verified
  have took : verified.elapsed = duration verified.exchanges := rfl
  rw [took]
  cases verdict : verified.value with
  | error fault => exact ⟨rfl, List.append_nil _⟩
  | ok isValid =>
      obtain ⟨value, silent⟩ := cache.run_record (now + duration verified.exchanges) router
        (past ++ verified.exchanges) asked.key isValid
      simp only [run_seq, run_pure, value, silent, List.append_nil, keeping, and_self]

end Judge

/-- What a login makes of the cache. A rejection is a verdict too; other faults are none. -/
def confirming (cache : VerdictCache) (moment : Nat) (key : String) :
    Except Fault Router.Login → Except Fault LoginResult × VerdictCache
  | .ok confirmed => (.ok ⟨confirmed.username, none⟩, cache.put moment key true)
  | .error .invalidCredentials => (.error .invalidCredentials, cache.put moment key false)
  | .error fault => (.error fault, cache)

theorem confirming_fault (cache : VerdictCache) (moment : Nat) (key : String) {fault : Fault}
    (other : fault ≠ .invalidCredentials) :
    cache.confirming moment key (.error fault) = (.error fault, cache) := by
  cases fault with
  | invalidCredentials => exact absurd rfl other
  | _ => rfl

theorem run_login (cache : VerdictCache) (endpoint : Router.Endpoint) (now : Nat)
    (username password : String) (router : Router.Behavior) (past : List Router.Exchange) :
    let confirmed := (endpoint.login username password).run router past
    let asked := (cache.login endpoint now username password).run router past
    asked.value = cache.confirming (now + duration confirmed.exchanges)
        (Verdict.credentialKey username password) confirmed.value ∧
      asked.exchanges = confirmed.exchanges := by
  simp only [login, run_seq, run_timed]
  generalize (endpoint.login username password).run router past = confirmed
  have took : confirmed.elapsed = duration confirmed.exchanges := rfl
  rw [took]
  have recorded := cache.run_record (now + duration confirmed.exchanges) router
    (past ++ confirmed.exchanges) (Verdict.credentialKey username password)
  cases came : confirmed.value with
  | ok login =>
      obtain ⟨value, silent⟩ := recorded true
      simp only [run_seq, say, run_note, run_done, run_pure, value, silent, List.append_nil,
        confirming, and_self]
  | error fault =>
      cases fault with
      | invalidCredentials =>
          obtain ⟨value, silent⟩ := recorded false
          simp only [run_seq, run_pure, value, silent, List.append_nil, confirming, and_self]
      | _ => exact ⟨rfl, List.append_nil _⟩

end VerdictCache

namespace Gateway

variable {gateway : Gateway} {endpoint : Router.Endpoint} {cache : VerdictCache}
  (backend : gateway.backend = .delegated endpoint (.verdicts cache))

include backend

theorem with_backend :
    { gateway with backend := .delegated endpoint (.verdicts cache) } = gateway := by
  rw [← backend]

theorem authorize_nothing {headers : Http.Headers} (nothing : Presented.ofHeaders? headers = none)
    (now : Nat) : gateway.authorize now headers = .done (.denied, gateway) := by
  simp only [authorize, backend, nothing]

theorem run_authorize_verdicts {headers : Http.Headers} {asked : Presented}
    (presents : Presented.ofHeaders? headers = some asked) (now : Nat) (router : Router.Behavior)
    (past : List Router.Exchange) :
    let judged := (cache.judge endpoint now asked).run router past
    let decided := (gateway.authorize now headers).run router past
    decided.value = (.ofVerdict asked.identity judged.value.1,
        { gateway with backend := .delegated endpoint (.verdicts judged.value.2) }) ∧
      decided.exchanges = judged.exchanges := by
  simp only [authorize, backend, presents, run_seq, run_pure, List.append_nil, and_self]

theorem run_login_verdicts (now : Nat) (username password : String) (draws : List Draw)
    (router : Router.Behavior) (past : List Router.Exchange) :
    let confirmed := (endpoint.login username password).run router past
    let asked := (gateway.login now username password draws).run router past
    let confirming := cache.confirming (now + duration confirmed.exchanges)
      (Verdict.credentialKey username password) confirmed.value
    asked.value = (confirming.1,
        { gateway with backend := .delegated endpoint (.verdicts confirming.2) }) ∧
      asked.exchanges = confirmed.exchanges := by
  obtain ⟨value, exchanges⟩ := cache.run_login endpoint now username password router past
  simp only [login, backend, run_seq, run_pure, List.append_nil, value, exchanges, and_self]

end Gateway

theorem Service.act_login_run (router : Router.Behavior) (service : Service)
    (username password : String) (draws : List Draw) :
    (service.act router (.login username password draws)).1.exchanges =
      ((service.gateway.login service.now username password draws).run router
        service.past).exchanges := by
  simp [act, dialogue, run_seq, run_pure]

theorem Service.act_authorize_run (router : Router.Behavior) (service : Service)
    (headers : Http.Headers) :
    let decided := (service.gateway.authorize service.now headers).run router service.past
    let asked := service.act router (.authorize headers)
    asked.1.result = .decided decided.value.1 ∧ asked.1.exchanges = decided.exchanges ∧
      asked.2.gateway = decided.value.2 ∧
      asked.2.now = service.now + duration decided.exchanges := by
  simp [act, dialogue, run_seq, run_pure, Router.Outcome.elapsed, duration, waitOf]

namespace Service

variable {service : Service} {endpoint : Router.Endpoint} {cache : VerdictCache}
  {headers : Http.Headers}
  (backend : service.gateway.backend = .delegated endpoint (.verdicts cache))
  (router : Router.Behavior)

include backend

theorem act_authorize_nothing (nothing : Presented.ofHeaders? headers = none) :
    let decided := service.act router (.authorize headers)
    decided.1.result = .decided .denied ∧ decided.1.exchanges = [] ∧
      decided.2.gateway = service.gateway := by
  obtain ⟨result, exchanges, kept, -⟩ := act_authorize_run router service headers
  intro decided
  rw [result, exchanges, kept, Gateway.authorize_nothing backend nothing]
  exact ⟨rfl, rfl, rfl⟩

section Presents

variable {asked : Presented} (presents : Presented.ofHeaders? headers = some asked)

include presents

theorem act_authorize_known {isValid : Bool}
    (known : cache.get? service.now asked.key = some isValid) :
    let decided := service.act router (.authorize headers)
    decided.1.result = .decided (.ofVerdict asked.identity isValid) ∧ decided.1.exchanges = [] ∧
      decided.2.gateway = service.gateway := by
  obtain ⟨result, exchanges, kept, -⟩ := act_authorize_run router service headers
  obtain ⟨value, spoken⟩ :=
    Gateway.run_authorize_verdicts backend presents service.now router service.past
  obtain ⟨judged, silent⟩ :=
    cache.run_judge_known endpoint service.now asked router service.past known
  intro decided
  rw [result, exchanges, kept, value, spoken, judged, silent]
  exact ⟨rfl, rfl, Gateway.with_backend backend⟩

theorem act_authorize_unknown (unknown : cache.get? service.now asked.key = none) :
    let verified := (asked.verify endpoint).run router service.past
    let decided := service.act router (.authorize headers)
    let judged := cache.keeping decided.1.ended asked.key verified.value
    decided.1.exchanges = verified.exchanges ∧
      decided.1.result = .decided (.ofVerdict asked.identity judged.1) ∧
      decided.2.gateway =
        { service.gateway with backend := .delegated endpoint (.verdicts judged.2) } := by
  obtain ⟨result, exchanges, kept, ended⟩ := act_authorize_run router service headers
  obtain ⟨value, spoken⟩ :=
    Gateway.run_authorize_verdicts backend presents service.now router service.past
  obtain ⟨judged, heard⟩ :=
    cache.run_judge_unknown endpoint service.now asked router service.past unknown
  rw [spoken, heard] at exchanges ended
  intro verified decided
  have moment : decided.1.ended = service.now + duration verified.exchanges := ended
  rw [moment]
  refine ⟨exchanges, ?_, ?_⟩
  · rw [result, value, judged]
  · rw [kept, value, judged]

end Presents

end Service

end RouterGate
