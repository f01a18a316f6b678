import RouterGate.Proofs.Since
import RouterGate.Proofs.Verdict.Steps
/-!
Who is let in on verdicts. A verdict that is kept is the last one of the router on its identity,
and it counts for the time of the cache; so nobody is let in whom the router did not confirm.
-/
namespace RouterGate

/-- A verdict that was heard in one of some steps, with no other one on its key since. -/
def Verdict.Stems (verdict : Verdict) (endpoint : Router.Endpoint) (ttl : Nat)
    (steps : List Step) : Prop :=
  HoldsSince
    (fun judged => ∃ asked, judged.Hears endpoint asked verdict.isValid ∧
      asked.key = verdict.key ∧ verdict.expiresAt = judged.ended + ttl)
    (fun later => ∃ other isValid, other.key = verdict.key ∧ later.Hears endpoint other isValid)
    steps

namespace Verdict

variable {verdict : Verdict} {endpoint : Router.Endpoint} {ttl : Nat} {steps : List Step}
  {step : Step}

theorem stems_concat_iff :
    verdict.Stems endpoint ttl (steps ++ [step]) ↔
      (∃ asked, step.Hears endpoint asked verdict.isValid ∧ asked.key = verdict.key ∧
          verdict.expiresAt = step.ended + ttl) ∨
        (verdict.Stems endpoint ttl steps ∧
          ∀ other isValid, other.key = verdict.key → ¬step.Hears endpoint other isValid) := by
  simp only [Stems, holdsSince_concat_iff, not_exists, not_and]

theorem Stems.concat (stems : verdict.Stems endpoint ttl steps)
    (unheard : ∀ other isValid, other.key = verdict.key → ¬step.Hears endpoint other isValid) :
    verdict.Stems endpoint ttl (steps ++ [step]) :=
  stems_concat_iff.mpr (.inr ⟨stems, unheard⟩)

theorem Stems.of_hears {asked : Presented} {isValid : Bool}
    (hears : step.Hears endpoint asked isValid) (steps : List Step) (ttl : Nat) :
    Stems ⟨asked.key, isValid, step.ended + ttl⟩ endpoint ttl (steps ++ [step]) :=
  stems_concat_iff.mpr (.inl ⟨asked, hears, rfl, rfl⟩)

end Verdict

structure VerdictCache.Accounts (cache : VerdictCache) (endpoint : Router.Endpoint) (ttl : Nat)
    (steps : List Step) : Prop where
  lasts : cache.ttl = ttl
  stems : ∀ verdict ∈ cache.verdicts, verdict.Stems endpoint ttl steps

namespace VerdictCache

variable {cache next : VerdictCache} {endpoint : Router.Endpoint} {ttl now : Nat}
  {steps : List Step} {step : Step}

theorem Accounts.effect (accounts : cache.Accounts endpoint ttl steps)
    (effect : VerdictEffect endpoint cache step next) :
    next.Accounts endpoint ttl (steps ++ [step]) := by
  cases effect with
  | kept unheard =>
      refine ⟨accounts.lasts, ?_⟩
      intro verdict kept
      exact (accounts.stems verdict kept).concat fun other isValid _ => unheard other isValid
  | heard hears =>
      refine ⟨accounts.lasts, ?_⟩
      intro verdict kept
      rcases mem_put_iff.mp kept with rfl | ⟨earlier, -, otherKey⟩
      · rw [accounts.lasts]
        exact .of_hears hears steps ttl
      -- What stays is on other keys, and the step was about one identity only.
      · apply (accounts.stems verdict earlier).concat
        intro other isValid same hears'
        rw [hears'.1.unique hears.1] at same
        exact otherKey same.symm

theorem get?_eq_some {key : String} {isValid : Bool} (found : cache.get? now key = some isValid) :
    ∃ verdict ∈ cache.verdicts, verdict.key = key ∧ verdict.isValid = isValid ∧
      now < verdict.expiresAt := by
  unfold get? find? at found
  split at found
  next => cases found
  next verdict kept =>
    split at found
    next => cases found
    next live =>
      cases found
      have named := List.find?_some kept
      exact ⟨verdict, List.mem_of_find?_eq_some kept, beq_iff_eq.mp named, rfl,
        Nat.not_le.mp live⟩

end VerdictCache

def Service.KeepsVerdicts (endpoint : Router.Endpoint) (ttl : Nat) (steps : List Step)
    (service : Service) : Prop :=
  ∃ cache, service.gateway.backend = .delegated endpoint (.verdicts cache) ∧
    cache.Accounts endpoint ttl steps

theorem Service.KeepsVerdicts.play {endpoint : Router.Endpoint} {ttl now : Nat}
    {isDegraded : Bool} {past : List Router.Exchange} (router : Router.Behavior)
    (moves : List Move) :
    let start : Service := ⟨⟨.delegated endpoint (.verdicts (.start ttl)), isDegraded⟩, now, past⟩
    (start.play router moves).2.KeepsVerdicts endpoint ttl (start.play router moves).1 := by
  intro start
  refine play_holds router (fun steps service => service.KeepsVerdicts endpoint ttl steps)
    ?_ ?_ ?_ moves
  · intro steps service action keeps
    obtain ⟨cache, backend, accounts⟩ := keeps
    obtain ⟨next, nextBackend, effect⟩ := act_verdictEffect router action backend
    exact ⟨next, nextBackend, accounts.effect effect⟩
  · intro steps service keeps
    obtain ⟨cache, backend, accounts⟩ := keeps
    refine ⟨cache, ?_, accounts⟩
    rw [Service.wake, Gateway.reaped_verdicts backend]
    exact backend
  · refine ⟨_, rfl, rfl, ?_⟩
    intro verdict impossible
    cases impossible

def IsKeyPreimage (steps : List Step) (message : Bytes) : Prop :=
  ∃ step ∈ steps, ∃ asked, step.AsksAbout asked ∧ message = asked.preimage

/-- No two different messages of a kind have one digest. -/
def Digest.IsCollisionFree (kind : Bytes → Prop) : Prop :=
  ∀ first second, kind first → kind second →
    Digest.sha256 first = Digest.sha256 second → first = second

theorem Presented.matches_of_same_key {hashed : Bytes → Prop}
    (noCollision : Digest.IsCollisionFree hashed) {first second : Presented}
    (isHashed : hashed first.preimage) (isHashed' : hashed second.preimage) (fits : first.Fits)
    (fits' : second.Fits) (named : first.IsNamed) (named' : second.IsNamed)
    (same : first.key = second.key) : first.Matches second := by
  rw [key_eq, key_eq] at same
  have preimages := noCollision _ _ isHashed isHashed' (Verdict.keyOf_inj same)
  exact matches_of_preimage_eq fits fits' named named' preimages

theorem matches_of_key_eq {steps : List Step}
    (noCollision : Digest.IsCollisionFree (IsKeyPreimage steps))
    (fits : ∀ step ∈ steps, ∀ asked, step.AsksAbout asked → asked.Fits)
    {first second : Step} {asked other : Presented} (inSteps : first ∈ steps)
    (inSteps' : second ∈ steps) (asks : first.AsksAbout asked) (asks' : second.AsksAbout other)
    (same : asked.key = other.key) : asked.Matches other := by
  exact Presented.matches_of_same_key noCollision ⟨first, inSteps, asked, asks, rfl⟩
    ⟨second, inSteps', other, asks', rfl⟩ (fits first inSteps asked asks)
    (fits second inSteps' other asks') asks.isNamed asks'.isNamed same

section Authorizing

variable {steps : List Step} {requests : List Http.Headers}
  (acted : steps.map (·.action) = requests.map .authorize)

include acted

/-- Steps that only authorize ask about what their requests present. -/
theorem mem_of_asksAbout {step : Step} (inSteps : step ∈ steps) {asked : Presented}
    (asks : step.AsksAbout asked) : asked ∈ requests.filterMap Presented.ofHeaders? := by
  have member : step.action ∈ requests.map .authorize := by
    rw [← acted]
    exact List.mem_map_of_mem inSteps
  obtain ⟨headers, sent, same⟩ := List.mem_map.mp member
  exact List.mem_filterMap.mpr ⟨headers, sent, asks.presents same.symm⟩

theorem isCollisionFree_of_authorizes
    (apart : ∀ first ∈ requests.filterMap Presented.ofHeaders?,
      ∀ second ∈ requests.filterMap Presented.ofHeaders?,
        Digest.sha256 first.preimage = Digest.sha256 second.preimage →
          first.preimage = second.preimage) :
    Digest.IsCollisionFree (IsKeyPreimage steps) := by
  intro first second ofStep ofStep' same
  obtain ⟨step, inSteps, asked, asks, rfl⟩ := ofStep
  obtain ⟨step', inSteps', asked', asks', rfl⟩ := ofStep'
  exact apart asked (mem_of_asksAbout acted inSteps asks) asked'
    (mem_of_asksAbout acted inSteps' asks') same

theorem fits_of_authorizes
    (small : ∀ asked ∈ requests.filterMap Presented.ofHeaders?,
      asked.preimage.length < UInt64.size) :
    ∀ step ∈ steps, ∀ asked, step.AsksAbout asked → asked.Fits := by
  intro step inSteps asked asks
  exact Presented.fits_of_small (small asked (mem_of_asksAbout acted inSteps asks))

end Authorizing

/-- The router's yes for an identity still counts: it confirmed the same identity in a step that
ended not too long ago, and no later verdict on that identity was a no. -/
def IsConfirmed (steps : List Step) (endpoint : Router.Endpoint) (ttl now : Nat)
    (presented : Presented) : Prop :=
  ∃ before judged after same, steps = before ++ judged :: after ∧ same.Matches presented ∧
    judged.AsksAbout same ∧ same.ConfirmedBy judged.exchanges ∧ judged.ended ≤ now ∧
    now < judged.ended + ttl ∧
    ∀ later ∈ after, ∀ other, other.Matches presented → ¬later.Hears endpoint other false

theorem isConfirmed_of_stems {steps : List Step} {step : Step} {endpoint : Router.Endpoint}
    {ttl now : Nat} {presented : Presented} {verdict : Verdict}
    (noCollision : Digest.IsCollisionFree (IsKeyPreimage (steps ++ [step])))
    (fits : ∀ inner ∈ steps ++ [step], ∀ asked, inner.AsksAbout asked → asked.Fits)
    (past : ∀ inner ∈ steps, inner.ended ≤ now) (asks : step.AsksAbout presented)
    (stems : verdict.Stems endpoint ttl steps) (named : verdict.key = presented.key)
    (positive : verdict.isValid = true) (live : now < verdict.expiresAt) :
    IsConfirmed steps endpoint ttl now presented := by
  obtain ⟨before, judged, after, split, ⟨same, hears, sameKey, expires⟩, last⟩ := stems
  rw [positive] at hears
  rw [expires] at live
  have inSteps : judged ∈ steps := by
    rw [split]
    exact List.mem_append_right _ List.mem_cons_self
  refine ⟨before, judged, after, same, split, ?_, hears.1,
    Presented.confirmedBy_of_verify hears.2, past judged inSteps, live, ?_⟩
  · exact matches_of_key_eq noCollision fits (List.mem_append_left _ inSteps)
      (List.mem_append_right _ List.mem_cons_self) hears.1 asks (sameKey.trans named)
  · intro later member other same' denies
    have sameKey' := (Presented.key_eq_of_matches same').trans named.symm
    exact last later member ⟨other, false, sameKey', denies⟩

theorem Presented.ofHeaders?_eq_some_iff {headers : Http.Headers} {presented : Presented} :
    ofHeaders? headers = some presented ↔
      (∃ given, Credentials.presented? headers = some given ∧ presented = .credentials given) ∨
        (Credentials.presented? headers = none ∧ routerCookies headers ≠ [] ∧
          presented = .cookies (routerCookies headers)) := by
  unfold ofHeaders?
  cases Credentials.presented? headers with
  | some given =>
      simp only [Option.some.injEq, reduceCtorEq, false_and, or_false, exists_eq_left']
      exact eq_comm
  | none =>
      cases routerCookies headers with
      | nil => simp
      | cons first rest =>
          simp only [Option.some.injEq, reduceCtorEq, false_and, exists_false, false_or, ne_eq,
            not_false_eq_true, true_and]
          exact eq_comm

/-- With verdicts, nobody is let in whom the router did not confirm: in this very call, or in a
step not too long ago since when it did not say no. -/
theorem verdict_access (endpoint : Router.Endpoint) (ttl : Nat) (isDegraded : Bool) (now : Nat)
    (past : List Router.Exchange) (router : Router.Behavior) (moves : List Move)
    (headers : Http.Headers) (identity : Identity) :
    let start : Service := ⟨⟨.delegated endpoint (.verdicts (.start ttl)), isDegraded⟩, now, past⟩
    let steps := (start.play router moves).1
    let service := (start.play router moves).2
    let asked := (service.act router (.authorize headers)).1
    Digest.IsCollisionFree (IsKeyPreimage (steps ++ [asked])) →
      (∀ step ∈ steps ++ [asked], ∀ presented, step.AsksAbout presented → presented.Fits) →
      asked.result = .decided (.allowed identity) →
      ∃ presented : Presented,
        ((∃ given, Credentials.presented? headers = some given ∧
            presented = .credentials given ∧ identity = .user given.username) ∨
          (Credentials.presented? headers = none ∧ Presented.routerCookies headers ≠ [] ∧
            presented = .cookies (Presented.routerCookies headers) ∧
            identity = .routerSession)) ∧
        (presented.ConfirmedBy asked.exchanges ∨
          IsConfirmed steps endpoint ttl service.now presented) := by
  intro start steps service asked noCollision fits allowed
  obtain ⟨cache, backend, accounts⟩ : service.KeepsVerdicts endpoint ttl steps :=
    Service.KeepsVerdicts.play router moves
  have ended : ∀ step ∈ steps, step.ended ≤ service.now :=
    Service.ended_le_now router start moves
  have held : (service.dialogue (.authorize headers)).Yields asked.exchanges
      (asked.result, (service.act router (.authorize headers)).2.gateway) :=
    Service.act_yields router service (.authorize headers)
  obtain ⟨decision, decides, came⟩ := Service.authorize_yields_iff.mp held
  rw [allowed, Result.decided.injEq] at came
  subst came
  rcases Gateway.authorize_verdicts backend decides with
    ⟨-, -, impossible, -⟩ | ⟨presented, isValid, next, presents, same, -, judged⟩
  · cases impossible
  have asks : asked.AsksAbout presented := .authorize rfl presents
  cases isValid with
  | false => cases same
  | true =>
      obtain rfl : identity = presented.identity := Decision.allowed.inj same
      refine ⟨presented, ?_, ?_⟩
      · rcases Presented.ofHeaders?_eq_some_iff.mp presents with
          ⟨given, found, rfl⟩ | ⟨noCredentials, some_cookies, rfl⟩
        · exact .inl ⟨given, found, rfl, rfl⟩
        · exact .inr ⟨noCredentials, some_cookies, rfl, rfl⟩
      -- A verdict that was known stems from an earlier step; else the router was asked just now.
      · generalize asked.exchanges = exchanges at judged ⊢
        cases judged with
        | known found =>
            obtain ⟨verdict, kept, named, positive, live⟩ := VerdictCache.get?_eq_some found
            exact .inr (isConfirmed_of_stems noCollision fits ended asks
              (accounts.stems verdict kept) named positive live)
        | heard held => exact .inl (Presented.confirmedBy_of_verify held)

deriving instance DecidableEq for Result

/-- A router that takes the first proof it is given and no later one: whom it let in is let in
again, in silence, while another user is turned away and a session at the router is taken. -/
theorem verdict_access_repeated :
    let router : Router.Behavior := fun past request =>
      if request.cookie = some "sid=1" ∨ past.length = 1 then ⟨.answered ⟨200, [], .whole []⟩, 5⟩
      else
        ⟨.answered ⟨401, [.ofText "x-ndm-realm" "router", .ofText "x-ndm-challenge" "abc"],
          .whole []⟩, 5⟩
    let endpoint : Router.Endpoint := ⟨"http://router", .tableless, 1000⟩
    let start : Service := ⟨⟨.delegated endpoint (.verdicts (.start 60)), false⟩, 0, []⟩
    let alice : Http.Headers := [.ofText "authorization" "Basic YWxpY2U6cHc="]
    let session : Http.Headers := [.ofText "cookie" "sid=1"]
    let bob : Http.Headers := [.ofText "authorization" "Basic Ym9iOnB3"]
    let moves : List Move := [.act (.authorize alice), .act (.authorize session), .wake,
      .act (.authorize bob)]
    let steps := (start.play router moves).1
    let service := (start.play router moves).2
    let asked := (service.act router (.authorize alice)).1
    steps.map (·.result) = [.decided (.allowed (.user "alice")),
        .decided (.allowed .routerSession), .decided .denied] ∧
      asked.result = .decided (.allowed (.user "alice")) ∧ asked.exchanges = [] ∧
      Credentials.presented? alice = some ⟨"alice", "pw"⟩ ∧
      IsConfirmed steps endpoint 60 service.now (.credentials ⟨"alice", "pw"⟩) := by
  intro router endpoint start alice session bob moves steps service asked
  have given : Credentials.presented? alice = some ⟨"alice", "pw"⟩ := by decide +kernel
  obtain ⟨results, allowed, silent⟩ :
      steps.map (·.result) = [.decided (.allowed (.user "alice")),
        .decided (.allowed .routerSession), .decided .denied] ∧
      asked.result = .decided (.allowed (.user "alice")) ∧ asked.exchanges = [] := by
    decide +kernel
  have acted : (steps ++ [asked]).map (·.action) =
      [alice, session, bob, alice].map .authorize := rfl
  have held := verdict_access endpoint 60 false 0 [] router moves alice (.user "alice")
  extract_lets at held
  obtain ⟨presented, tied, confirmed⟩ := held
    (isCollisionFree_of_authorizes acted (by decide +kernel))
    (fits_of_authorizes acted (by decide +kernel)) allowed
  refine ⟨results, allowed, silent, given, ?_⟩
  rw [silent] at confirmed
  have earlier := confirmed.resolve_left presented.not_confirmedBy_nil
  rcases tied with ⟨other, found, rfl, -⟩ | ⟨bare, -⟩
  · cases given.symm.trans found
    exact earlier
  · cases given.symm.trans bare

end RouterGate
