import RouterGate.Proofs.Router.Yields
import RouterGate.Service.Run
/-!
Runs in which the reaper may also wake at any moment, and what holds all through a run because
every move keeps it.
-/
namespace RouterGate

/-- What happens to a service: it is asked to do something, or its reaper wakes. -/
inductive Move where
  | act (action : Action)
  | wake

def Gateway.reaped (gateway : Gateway) (now : Nat) : Gateway :=
  match gateway.backend with
  | .delegated endpoint (.sessions store) =>
      { gateway with backend := .delegated endpoint (.sessions (store.reap now)) }
  | _ => gateway

namespace Service

def wake (service : Service) : Service :=
  { service with gateway := service.gateway.reaped service.now }

/-- Some moves one after the other; the steps are those of the actions. -/
def play (router : Router.Behavior) (service : Service) : List Move → List Step × Service
  | [] => ([], service)
  | .act action :: rest =>
      let (step, next) := service.act router action
      let (steps, last) := next.play router rest
      (step :: steps, last)
  | .wake :: rest => service.wake.play router rest

@[simp] theorem play_nil (router : Router.Behavior) (service : Service) :
    service.play router [] = ([], service) := rfl

@[simp] theorem play_act (router : Router.Behavior) (service : Service) (action : Action)
    (rest : List Move) :
    service.play router (.act action :: rest) =
      ((service.act router action).1 ::
          ((service.act router action).2.play router rest).1,
        ((service.act router action).2.play router rest).2) := rfl

@[simp] theorem play_wake (router : Router.Behavior) (service : Service) (rest : List Move) :
    service.play router (.wake :: rest) = service.wake.play router rest := rfl

section Invariants

variable (router : Router.Behavior) (holds : List Step → Service → Prop)
  (act : ∀ steps service action, holds steps service →
    holds (steps ++ [(service.act router action).1]) (service.act router action).2)
  (wake : ∀ steps service, holds steps service → holds steps service.wake)
include act wake

theorem play_from {steps : List Step} {service : Service} (start : holds steps service)
    (moves : List Move) :
    holds (steps ++ (service.play router moves).1) (service.play router moves).2 := by
  induction moves generalizing steps service with
  | nil =>
      rw [play_nil, List.append_nil]
      exact start
  | cons move rest induction =>
      cases move with
      | act action =>
          have continued := induction (act steps service action start)
          rw [List.append_assoc, List.singleton_append] at continued
          exact continued
      | wake => exact induction (wake steps service start)

/-- What holds of the steps so far and the service, and is kept by every move, holds after every
run. -/
theorem play_holds {service : Service} (start : holds [] service) (moves : List Move) :
    holds (service.play router moves).1 (service.play router moves).2 :=
  play_from router holds act wake start moves

end Invariants

section Actions

open Router.Dialogue

variable {service : Service} {exchanges : List Router.Exchange} {result : Result}
  {kept : Gateway}

theorem authorize_yields_iff {headers : Http.Headers} :
    (service.dialogue (.authorize headers)).Yields exchanges (result, kept) ↔
      ∃ decision, (service.gateway.authorize service.now headers).Yields exchanges
        (decision, kept) ∧ result = .decided decision :=
  yields_wrap_iff

theorem check_yields_iff {headers : Http.Headers} :
    (service.dialogue (.check headers)).Yields exchanges (result, kept) ↔
      exchanges = [] ∧ result = .checked (service.gateway.check service.now headers) ∧
        kept = service.gateway := by
  rw [dialogue, yields_done_iff, Prod.mk.injEq]

theorem login_yields_iff {username password : String} {draws : List Draw} :
    (service.dialogue (.login username password draws)).Yields exchanges (result, kept) ↔
      ∃ reached, (service.gateway.login service.now username password draws).Yields exchanges
        (reached, kept) ∧ result = .loggedIn reached :=
  yields_wrap_iff

theorem logout_yields_iff {token : Option String} :
    (service.dialogue (.logout token)).Yields exchanges (result, kept) ↔
      exchanges = [] ∧ result = .done ∧ kept = service.gateway.logout token := by
  rw [dialogue, yields_tell_iff, yields_pure_iff, Prod.mk.injEq]

theorem answer_yields_iff {host : Api.Host} {extra : List Api.ExtraPage}
    {request : Api.Request} {draws : List Draw} :
    (service.dialogue (.answer host extra request draws)).Yields exchanges (result, kept) ↔
      ∃ response, (Api.respond host extra service.gateway service.now draws request).Yields
        exchanges (response, kept) ∧ result = .answered response :=
  yields_wrap_iff

theorem wait_yields_iff {milliseconds : Nat} :
    (service.dialogue (.wait milliseconds)).Yields exchanges (result, kept) ↔
      exchanges = [] ∧ result = .done ∧
        kept = service.gateway.passTime service.now (service.now + milliseconds) := by
  rw [dialogue, yields_done_iff, Prod.mk.injEq]

theorem shutdown_yields_iff :
    (service.dialogue .shutdown).Yields exchanges (result, kept) ↔
      exchanges = [] ∧ result = .done ∧ kept = service.gateway.shutdown := by
  rw [dialogue, yields_tell_iff, yields_pure_iff, Prod.mk.injEq]

end Actions

theorem act_yields (router : Router.Behavior) (service : Service) (action : Action) :
    (service.dialogue action).Yields (service.act router action).1.exchanges
      ((service.act router action).1.result, (service.act router action).2.gateway) :=
  Router.Dialogue.yields_run router service.past _

theorem act_ended (router : Router.Behavior) (service : Service) (action : Action) :
    (service.act router action).1.ended =
      service.now + Router.Dialogue.duration (service.act router action).1.exchanges +
        waitOf action := rfl

theorem now_le_play (router : Router.Behavior) (service : Service) (moves : List Move) :
    service.now ≤ (service.play router moves).2.now := by
  refine play_holds router (fun _ later => service.now ≤ later.now) ?_ ?_ (Nat.le_refl _) moves
  · intro steps later action reached
    exact Nat.le_trans reached (now_le_act router later action)
  · intro steps later reached
    exact reached

theorem ended_le_now (router : Router.Behavior) (service : Service) (moves : List Move) :
    ∀ step ∈ (service.play router moves).1, step.ended ≤ (service.play router moves).2.now := by
  refine play_holds router (fun steps service => ∀ step ∈ steps, step.ended ≤ service.now)
    ?_ ?_ ?_ moves
  · intro steps service action past step member
    rcases List.mem_append.mp member with earlier | new
    · exact Nat.le_trans (past step earlier) (now_le_act router service action)
    · rw [List.mem_singleton.mp new]
      exact Nat.le_refl _
  · intro steps service past
    exact past
  · intro step impossible
    cases impossible

end Service

end RouterGate
