import Mathlib.Data.List.Induction
import RouterGate.Proofs.Verdict.Access
/-!
Which verdicts are known: exactly those that were heard not too long ago, with no other one on the
same key since. What else is heard, and what is swept away meanwhile, makes no difference.
-/
namespace RouterGate

open Router.Dialogue

section Stems

variable {verdict : Verdict} {endpoint : Router.Endpoint} {ttl : Nat} {steps : List Step}
  {step : Step}

theorem Step.Hears.unique {asked other : Presented} {isValid isValid' : Bool}
    (hears : step.Hears endpoint asked isValid) (hears' : step.Hears endpoint other isValid') :
    asked = other ∧ isValid = isValid' := by
  obtain ⟨asks, held⟩ := hears
  obtain ⟨asks', held'⟩ := hears'
  obtain rfl := asks.unique asks'
  exact ⟨rfl, Except.ok.inj (held.unique held')⟩

namespace Verdict.Stems

/-- For each key only one verdict stands. -/
theorem unique {other : Verdict} (stems : verdict.Stems endpoint ttl steps)
    (stems' : other.Stems endpoint ttl steps) (same : verdict.key = other.key) :
    verdict = other := by
  induction steps using List.reverseRecOn with
  | nil => exact absurd stems not_holdsSince_nil
  | append_singleton steps step induction =>
      rcases stems_concat_iff.mp stems with ⟨asked, hears, ofKey, expires⟩ | ⟨earlier, unheard⟩
      · rcases stems_concat_iff.mp stems' with ⟨asked', hears', ofKey', expires'⟩ | ⟨-, unheard'⟩
        · obtain ⟨rfl, sameVerdict⟩ := hears.unique hears'
          cases verdict
          cases other
          simp_all only
        · exact absurd hears (unheard' asked _ (ofKey.trans same))
      · rcases stems_concat_iff.mp stems' with ⟨asked', hears', ofKey', -⟩ | ⟨earlier', -⟩
        · exact absurd hears' (unheard asked' _ (ofKey'.trans same.symm))
        · exact induction earlier earlier'

theorem of_append {more : List Step} (stems : verdict.Stems endpoint ttl (steps ++ more))
    (unheard : ∀ later ∈ more, ∀ other isValid, other.key = verdict.key →
      ¬later.Hears endpoint other isValid) : verdict.Stems endpoint ttl steps := by
  induction more using List.reverseRecOn with
  | nil =>
      rw [List.append_nil] at stems
      exact stems
  | append_singleton more step induction =>
      rw [← List.append_assoc] at stems
      rcases stems_concat_iff.mp stems with ⟨asked, hears, ofKey, -⟩ | ⟨earlier, -⟩
      · exact absurd hears (unheard step (List.mem_append_right _ List.mem_cons_self) asked _ ofKey)
      · apply induction earlier
        intro later member
        exact unheard later (List.mem_append_left _ member)

end Verdict.Stems

end Stems

/-- A verdict on a key is known: it was heard less than the time of the cache ago, and none on
that key was heard since. -/
def IsKnown (steps : List Step) (endpoint : Router.Endpoint) (ttl now : Nat) (key : String)
    (isValid : Bool) : Prop :=
  ∃ expiresAt, (Verdict.mk key isValid expiresAt).Stems endpoint ttl steps ∧ now < expiresAt

/-- The cache has lost no verdict that still counts. -/
def VerdictCache.IsComplete (cache : VerdictCache) (endpoint : Router.Endpoint) (ttl now : Nat)
    (steps : List Step) : Prop :=
  ∀ verdict : Verdict, verdict.Stems endpoint ttl steps → now < verdict.expiresAt →
    verdict ∈ cache.verdicts

namespace VerdictCache

variable {cache next : VerdictCache} {endpoint : Router.Endpoint} {ttl now : Nat}
  {steps : List Step} {step : Step}

theorem IsComplete.effect (complete : cache.IsComplete endpoint ttl now steps)
    (lasts : cache.ttl = ttl) (forward : now ≤ step.ended)
    (effect : VerdictEffect endpoint cache step next) :
    next.IsComplete endpoint ttl step.ended (steps ++ [step]) := by
  intro verdict stems live
  rcases Verdict.stems_concat_iff.mp stems with
    ⟨asked, hears, ofKey, expires⟩ | ⟨earlier, unheard⟩
  · cases effect with
    | kept silent => exact absurd hears (silent asked _)
    | heard hears' =>
        obtain ⟨rfl, rfl⟩ := hears.unique hears'
        rw [mem_put_iff, lasts, ofKey, ← expires]
        exact .inl rfl
  · have stored := complete verdict earlier (Nat.lt_of_le_of_lt forward live)
    cases effect with
    | kept silent => exact stored
    | heard hears' =>
        rw [mem_put_iff]
        refine .inr ⟨stored, live, ?_⟩
        intro same
        exact unheard _ _ same.symm hears'

theorem get?_eq_some_iff {later : Nat} {key : String} {isValid : Bool}
    (accounts : cache.Accounts endpoint ttl steps)
    (complete : cache.IsComplete endpoint ttl now steps) (forward : now ≤ later) :
    cache.get? later key = some isValid ↔ IsKnown steps endpoint ttl later key isValid := by
  constructor
  · intro found
    obtain ⟨verdict, stored, rfl, rfl, live⟩ := get?_eq_some found
    exact ⟨verdict.expiresAt, accounts.stems verdict stored, live⟩
  · intro known
    obtain ⟨expiresAt, stems, live⟩ := known
    have stored := complete _ stems (Nat.lt_of_le_of_lt forward live)
    -- What is found first under the key is the verdict itself, since only one stands.
    cases found : cache.find? key with
    | none =>
        have absent := List.find?_eq_none.mp found _ stored
        exact absurd (beq_self_eq_true key) absent
    | some verdict =>
        have named := List.find?_some found
        rw [beq_iff_eq] at named
        have same := (accounts.stems verdict (List.mem_of_find?_eq_some found)).unique stems named
        simp only [get?, found, same, if_neg (Nat.not_le.mpr live)]

end VerdictCache

/-- The cache of a service holds what was heard in some steps, as far as it still counts. -/
def Service.Recalls (endpoint : Router.Endpoint) (ttl : Nat) (steps : List Step)
    (service : Service) : Prop :=
  ∃ cache, service.gateway.backend = .delegated endpoint (.verdicts cache) ∧
    cache.Accounts endpoint ttl steps ∧ cache.IsComplete endpoint ttl service.now steps

namespace Service.Recalls

variable {endpoint : Router.Endpoint} {ttl : Nat} {steps : List Step} {service : Service}

theorem act (recalls : service.Recalls endpoint ttl steps) (router : Router.Behavior)
    (action : Action) :
    (service.act router action).2.Recalls endpoint ttl
      (steps ++ [(service.act router action).1]) := by
  obtain ⟨cache, backend, accounts, complete⟩ := recalls
  obtain ⟨next, nextBackend, effect⟩ := act_verdictEffect router action backend
  exact ⟨next, nextBackend, accounts.effect effect,
    complete.effect accounts.lasts (now_le_act router service action) effect⟩

theorem wake (recalls : service.Recalls endpoint ttl steps) :
    service.wake.Recalls endpoint ttl steps := by
  obtain ⟨cache, backend, accounts, complete⟩ := recalls
  refine ⟨cache, ?_, accounts, complete⟩
  rw [Service.wake, Gateway.reaped_verdicts backend]
  exact backend

theorem start (endpoint : Router.Endpoint) (ttl : Nat) (isDegraded : Bool) (now : Nat)
    (past : List Router.Exchange) :
    Service.Recalls endpoint ttl []
      ⟨⟨.delegated endpoint (.verdicts (.start ttl)), isDegraded⟩, now, past⟩ := by
  refine ⟨_, rfl, ⟨rfl, ?_⟩, ?_⟩
  · intro verdict impossible
    cases impossible
  · intro verdict stems
    exact absurd stems not_holdsSince_nil

theorem play (recalls : service.Recalls endpoint ttl steps) (router : Router.Behavior)
    (moves : List Move) :
    (service.play router moves).2.Recalls endpoint ttl
      (steps ++ (service.play router moves).1) :=
  play_from router (fun steps service => service.Recalls endpoint ttl steps)
    (fun _ _ action recalls => recalls.act router action)
    (fun _ _ recalls => recalls.wake) recalls moves

end Service.Recalls

end RouterGate
