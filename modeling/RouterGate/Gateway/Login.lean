import RouterGate.Gateway.Access
/-!
Logging in and out. A login that the router confirms gives a session, or is remembered as a
verdict; a fault changes nothing.
-/
namespace RouterGate

structure LoginResult where
  username : String
  token : Option String
  deriving DecidableEq, Repr

namespace SessionStore

def login (store : SessionStore) (endpoint : Router.Endpoint) (now : Nat)
    (username password : String) (draws : List Draw) :
    Router.Dialogue (Except Fault LoginResult × SessionStore) := do
  let (result, took) ← (endpoint.login username password).timed
  let later := store.passTime now (now + took)
  match result with
  | .error fault => return (.error fault, later)
  | .ok confirmed =>
      match later.create (now + took) confirmed.username draws with
      | .error fault => return (.error fault, later)
      | .ok (token, grown) =>
          Router.Dialogue.say (Notes.sessionCreated confirmed.username)
          Router.Dialogue.say (Notes.loginSucceeded confirmed)
          return (.ok ⟨confirmed.username, some token⟩, grown)

def destroyNotes (store : SessionStore) (token : String) : List Log.Event :=
  if (store.find? token).isSome then [Notes.sessionDestroyed] else []

end SessionStore

namespace VerdictCache

def login (cache : VerdictCache) (endpoint : Router.Endpoint) (now : Nat)
    (username password : String) :
    Router.Dialogue (Except Fault LoginResult × VerdictCache) := do
  match ← (endpoint.login username password).timed with
  | (.ok confirmed, took) =>
      let recorded ← cache.record (now + took) (Verdict.credentialKey username password) true
      Router.Dialogue.say (Notes.loginVerified confirmed)
      return (.ok ⟨confirmed.username, none⟩, recorded)
  | (.error .invalidCredentials, took) =>
      let recorded ← cache.record (now + took) (Verdict.credentialKey username password) false
      return (.error .invalidCredentials, recorded)
  | (.error fault, _) => return (.error fault, cache)

end VerdictCache

namespace Gateway

def login (gateway : Gateway) (now : Nat) (username password : String) (draws : List Draw) :
    Router.Dialogue (Except Fault LoginResult × Gateway) :=
  match gateway.backend with
  | .delegated endpoint (.sessions store) => do
      let (result, kept) ← store.login endpoint now username password draws
      return (result, { gateway with backend := .delegated endpoint (.sessions kept) })
  | .delegated endpoint (.verdicts cache) => do
      let (result, kept) ← cache.login endpoint now username password
      return (result, { gateway with backend := .delegated endpoint (.verdicts kept) })
  | _ => .done (.error (.config .notDelegated), gateway)

/-- End the session of a token. Without sessions, and without a token, there is nothing to end. -/
def logout (gateway : Gateway) (token : Option String) : Gateway :=
  match gateway.backend, token with
  | .delegated endpoint (.sessions store), some token =>
      { gateway with backend := .delegated endpoint (.sessions (store.destroy token)) }
  | _, _ => gateway

def logoutNotes (gateway : Gateway) (token : Option String) : List Log.Event :=
  match gateway.backend, token with
  | .delegated _ (.sessions store), some token => store.destroyNotes token
  | _, _ => []

def shutdown (gateway : Gateway) : Gateway :=
  match gateway.backend with
  | .delegated endpoint (.sessions store) =>
      { gateway with backend := .delegated endpoint (.sessions store.shutdown) }
  | _ => gateway

def shutdownNotes (gateway : Gateway) : List Log.Event :=
  match gateway.backend with
  | .delegated _ (.sessions store) =>
      if store.isShutDown || store.reapEvery == 0 then [] else [Notes.reaperStopped]
  | _ => []

end Gateway

end RouterGate
