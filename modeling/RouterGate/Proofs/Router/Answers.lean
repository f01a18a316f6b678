import RouterGate.Proofs.Router.Conversation
/-!
What an answer asks for, in the terms of its status and its headers: to go on somewhere else, or
to prove a password.
-/
namespace RouterGate.Router

namespace Answer

/-- An answer that names another place, in its first `Location`. -/
def LeadsTo (answer : Answer) (location : String) : Prop :=
  answer.status ∈ [301, 302, 303, 307, 308] ∧
    ∃ text, Http.Headers.firstText? "location" answer.headers = some text ∧ text ≠ [] ∧
      location = String.ofList text

end Answer

def Resolves (hosts : Url.HostMapping) (address location target : String) : Prop :=
  ∃ base place, Url.parse hosts address = .ok (.web base) ∧
    Url.join hosts base location = .ok place ∧ target = place.text

namespace Answer

def RedirectsTo (answer : Answer) (hosts : Url.HostMapping) (address target : String) : Prop :=
  ∃ location, answer.LeadsTo location ∧ Resolves hosts address location target

/-- An answer that asks for a proof: the first values of both headers are text and not blank. -/
def Challenges (answer : Answer) (realm nonce : String) : Prop :=
  answer.status = 401 ∧
    ∃ realmText nonceText,
      Http.Headers.firstText? "x-ndm-realm" answer.headers = some realmText ∧
      Http.Headers.firstText? "x-ndm-challenge" answer.headers = some nonceText ∧
      Text.trim realmText ≠ [] ∧ Text.trim nonceText ≠ [] ∧
      realm = String.ofList (Text.trim realmText) ∧
      nonce = String.ofList (Text.trim nonceText)

end Answer

theorem leadsTo_iff {answer : Answer} {location : String} :
    answer.LeadsTo location ↔ redirection? answer = some location := by
  unfold redirection? Answer.LeadsTo
  have isRedirect_iff : Http.isRedirect answer.status = true ↔
      answer.status ∈ [301, 302, 303, 307, 308] := List.contains_iff_mem
  by_cases redirects : answer.status ∈ [301, 302, 303, 307, 308]
  · rw [if_pos (isRedirect_iff.mpr redirects)]
    cases found : Http.Headers.firstText? "location" answer.headers with
    | none => simp
    | some text =>
        cases text with
        | nil => simp
        | cons c rest =>
            simp only [List.isEmpty_cons, Bool.false_eq_true, if_false, Option.some.injEq]
            constructor
            · intro leads
              obtain ⟨-, _, rfl, -, rfl⟩ := leads
              rfl
            · intro same
              subst same
              exact ⟨redirects, _, rfl, List.cons_ne_nil c rest, rfl⟩
  · rw [if_neg (redirects ∘ isRedirect_iff.mp)]
    constructor
    · intro leads
      obtain ⟨redirects', -⟩ := leads
      exact absurd redirects' redirects
    · intro impossible
      cases impossible

theorem resolves_iff {hosts : Url.HostMapping} {address location target : String} :
    Resolves hosts address location target ↔
      redirectTarget hosts address location = .ok target := by
  unfold redirectTarget Resolves
  cases parsed : Url.parse hosts address with
  | error defect => simp
  | ok where' =>
      cases where' with
      | other text => simp
      | web base =>
          cases joined : Url.join hosts base location with
          | error defect => simp [joined]
          | ok place => simp [joined, eq_comm]

theorem usable?_eq_some_iff {name value : String} {headers : Http.Headers} :
    Challenge.usable? name headers = some value ↔
      ∃ text, Http.Headers.firstText? name headers = some text ∧ Text.trim text ≠ [] ∧
        value = String.ofList (Text.trim text) := by
  unfold Challenge.usable?
  cases found : Http.Headers.firstText? name headers with
  | none => simp
  | some text =>
      cases trimmed : Text.trim text with
      | nil => simp [trimmed]
      | cons c rest =>
          simp only [trimmed, List.isEmpty_cons, Bool.false_eq_true, if_false,
            Option.some.injEq]
          constructor
          · intro same
            subst same
            exact ⟨text, rfl, trimmed ▸ List.cons_ne_nil c rest, by rw [trimmed]⟩
          · intro usable
            obtain ⟨_, rfl, -, rfl⟩ := usable
            rw [trimmed]

theorem ofHeaders_eq_ok_iff {headers : Http.Headers} {challenge : Challenge} :
    Challenge.ofHeaders headers = .ok challenge ↔
      Challenge.usable? Challenge.realmHeader headers = some challenge.realm ∧
        Challenge.usable? Challenge.nonceHeader headers = some challenge.nonce := by
  unfold Challenge.ofHeaders
  cases realm : Challenge.usable? Challenge.realmHeader headers <;>
    cases nonce : Challenge.usable? Challenge.nonceHeader headers <;>
    cases challenge <;> simp

theorem ofHeaders_error {headers : Http.Headers} {fault : Fault}
    (missing : Challenge.ofHeaders headers = .error fault) : ∃ cause, fault = .protocol cause := by
  unfold Challenge.ofHeaders at missing
  split at missing
  next => cases missing
  next => exact ⟨_, (Except.error.inj missing).symm⟩

theorem challenges_iff {answer : Answer} {realm nonce : String} :
    answer.Challenges realm nonce ↔
      answer.status = 401 ∧ Challenge.ofHeaders answer.headers = .ok ⟨realm, nonce⟩ := by
  simp only [Answer.Challenges, ofHeaders_eq_ok_iff, usable?_eq_some_iff,
    Challenge.realmHeader, Challenge.nonceHeader]
  constructor
  · intro challenges
    obtain ⟨unauthorized, first, second, foundRealm, foundNonce, filledRealm, filledNonce,
      rfl, rfl⟩ := challenges
    exact ⟨unauthorized, ⟨first, foundRealm, filledRealm, rfl⟩,
      ⟨second, foundNonce, filledNonce, rfl⟩⟩
  · intro challenges
    obtain ⟨unauthorized, ⟨first, foundRealm, filledRealm, rfl⟩,
      ⟨second, foundNonce, filledNonce, rfl⟩⟩ := challenges
    exact ⟨unauthorized, first, second, foundRealm, foundNonce, filledRealm, filledNonce,
      rfl, rfl⟩

end RouterGate.Router
